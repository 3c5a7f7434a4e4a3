import CountBridge.Logging.Directive
import CountBridge.Logging.Options

/-!
Which events are recorded. A filter is a list of directives, of which the most
specific decides. The filter text of the environment wins over the options,
unless it cannot be read.
-/

namespace CountBridge.Logging

abbrev Filter := List Directive

def splitAtCommas (text : List Char) : List (List Char) :=
  text.foldr (fun c parts =>
    match parts with
    | first :: others => if c = ',' then [] :: parts else (c :: first) :: others
    | [] => [[c]]) [[]]

namespace Filter

def atLevel (level : Level) : Filter := [{ limit := some level }]

/-- Empty parts are skipped; a text without any part lets nothing through. -/
def ofText? (text : String) : Option Filter :=
  ((splitAtCommas text.toList).filter fun part => !part.isEmpty).mapM Directive.ofText?

/-- Of the directives for a target the most specific decides, and of equals the last. -/
def limitFor (filter : Filter) (target : String) : Option Level :=
  let chosen := (filter.filter (·.concerns target)).foldl (fun best directive =>
    match best with
    | some held => if directive.lessSpecific held then some held else some directive
    | none => some directive) (none : Option Directive)
  chosen.bind (·.limit)

def enabled (filter : Filter) (target : String) : List Level :=
  let limit := verbosityOf (filter.limitFor target)
  Level.all.filter fun level => level.verbosity ≤ limit

/-- The most verbose limit that any directive needs. -/
def ceiling (filter : Filter) : Option Level :=
  filter.foldl (fun highest directive =>
    if verbosityOf highest < verbosityOf directive.reach then directive.reach else highest) none

/-- Only the first set of options counts, and none at all records nothing. -/
def install (environment : Option String) (inits : List Options) : Filter :=
  match inits with
  | [] => []
  | options :: _ => (environment.bind ofText?).getD (atLevel options.level)

end Filter

end CountBridge.Logging
