import CountBridge.Proofs.Deferral
import CountBridge.Proofs.Holders
import CountBridge.Proofs.Trapping

/-! The order of a run. Of two operations of a program, either one has ended when the
other begins, or one is executed in the body of the other. So whatever state a program
comes through, lies before a given action or after it. -/

namespace CountBridge.Program

variable {α : Type} {op inner : Op α} {s t u start entered session : Session α} {program body : List (Op α)}
  {above above' between : List (Op α × Session α)} {action : Action} {hand : List Wrapper}

/-- Of operations executed one after another, one has ended when the other begins. -/
theorem Along.apart {run : Op α → Run α Unit} (onward : ∀ op, Onward Session.course (run op))
    (first : Along run body start op s) (second : Along run body start inner t) :
    (op = inner ∧ s = t) ∨ Session.course.order (ends (run op) s).2 t ∨ Session.course.order (ends (run inner) t).2 s := by
  induction first with
  | here =>
    cases second with
    | here => exact .inl ⟨rfl, rfl⟩
    | later ended further =>
      rw [ended]
      exact .inr (.inl (further.onward onward))
  | later ended further ih =>
    cases second with
    | here =>
      rw [ended]
      exact .inr (.inr (further.onward onward))
    | later again further' =>
      rw [ended] at again
      cases again
      exact ih further'

theorem order_runTop (op : Op α) (s : Session α) : Session.course.order (ends (runOp op) s).2 (ends (runTop op) s).2 := by
  apply order_then (order_outcomeOf (Session.course.refl _))
  intro outcome
  cases outcome with
  | ok value => exact .pure _
  | error payload =>
    exact (onward_conclude payload).bind fun _ session => .of_store (.refl _) rfl rfl rfl rfl le_rfl

/-- An operation comes to an end while another one is executed, which has begun before it. -/
structure During (inner : Op α) (t : Session α) (op : Op α) (s : Session α) : Prop where
  begins : Session.course.order s t
  ended : Session.course.order (ends (runOp inner) t).2 (ends (runOp op) s).2

theorem During.refl (op : Op α) (s : Session α) : During op s op s := ⟨Session.course.refl _, Session.course.refl _⟩

theorem Along.during (along : Along runOp op.body entered inner t) (entry : op.entry? s = some entered) : During inner t op s where
  begins := Session.course.trans (Op.onward_entry entry) (along.onward fun op => (runs_op op).onward)
  ended := Session.course.trans along.order_end (order_runOp entry)

theorem During.trans {outer : Op α} {r : Session α} (late : During inner t op s) (early : During op s outer r) :
    During inner t outer r :=
  ⟨Session.course.trans early.begins late.begins, Session.course.trans late.ended early.ended⟩

/-- Beneath an operation, one of its body is executed, or what is beneath that. -/
theorem Begun.beneath (begun : Begun program start (between ++ (op, s) :: above) inner t) :
    ∃ entered middle u, op.entry? s = some entered ∧ Along runOp op.body entered middle u ∧ During inner t middle u ∧
      ((inner = middle ∧ t = u ∧ between = []) ∨ ∃ rest, between = rest ++ [(middle, u)]) := by
  induction between generalizing inner t with
  | nil =>
    cases begun with
    | inside outer entry along => exact ⟨_, _, _, entry, along, .refl _ _, .inl ⟨rfl, rfl, rfl⟩⟩
  | cons first rest ih =>
    cases begun with
    | @inside _ enclosing r _ _ _ outer entry along =>
      obtain ⟨entered, middle, u, outermost, along', during, place⟩ := ih outer
      refine ⟨entered, middle, u, outermost, along', (along.during entry).trans during, .inr ?_⟩
      rcases place with ⟨rfl, rfl, rfl⟩ | ⟨others, rfl⟩
      · exact ⟨[], rfl⟩
      · exact ⟨(enclosing, r) :: others, rfl⟩

/-- Every operation is one of the program itself, or beneath one. -/
theorem Begun.outermost (begun : Begun program start above inner t) :
    ∃ op s, Along runTop program start op s ∧ During inner t op s ∧
      ((inner = op ∧ t = s ∧ above = []) ∨ ∃ rest, above = rest ++ [(op, s)]) := by
  induction begun with
  | top along => exact ⟨_, _, along, .refl _ _, .inl ⟨rfl, rfl, rfl⟩⟩
  | @inside _ enclosing r _ _ _ outer entry along ih =>
    obtain ⟨op, s, top, during, place⟩ := ih
    refine ⟨op, s, top, (along.during entry).trans during, .inr ?_⟩
    rcases place with ⟨rfl, rfl, rfl⟩ | ⟨rest, rfl⟩
    · exact ⟨[], rfl⟩
    · exact ⟨(enclosing, r) :: rest, rfl⟩

/-- How an operation lies to an action: it begins after that, has ended before, or holds it. -/
inductive Placed (action : Action) (s : Session α) (above : List (Op α × Session α)) (op : Op α) (t : Session α)
    (above' : List (Op α × Session α)) : Prop
  | after (ended : Session.course.order (ends (runOp (.act action)) s).2 t)
  | before (ended : Session.course.order (ends (runOp op) t).2 s)
  | same (act : op = .act action) (at' : t = s)
  | within (between : List (Op α × Session α)) (beneath : above = between ++ (op, t) :: above')

/-- Compares what holds the action with an operation beside that. -/
theorem During.placed {run : Op α → Run α Unit} {middle : Op α} (during : During (.act action) s middle u)
    (prompt : ∀ op (s : Session α), Session.course.order (ends (runOp op) s).2 (ends (run op) s).2)
    (apart : (middle = op ∧ u = t) ∨ Session.course.order (ends (run middle) u).2 t ∨ Session.course.order (ends (run op) t).2 u)
    (place : (.act action = middle ∧ s = u) ∨ ∃ rest, above = rest ++ (middle, u) :: above') :
    Placed action s above op t above' := by
  rcases apart with ⟨rfl, rfl⟩ | later | earlier
  · rcases place with ⟨rfl, rfl⟩ | ⟨rest, beneath⟩
    · exact .same rfl rfl
    · exact .within rest beneath
  · exact .after (Session.course.trans during.ended (Session.course.trans (prompt _ _) later))
  · exact .before (Session.course.trans (prompt _ _) (Session.course.trans earlier during.begins))

theorem Begun.placed (acts : Begun program start above (.act action) s) (begun : Begun program start above' op t) :
    Placed action s above op t above' := by
  induction begun with
  | top along =>
    obtain ⟨outer, r, first, during, place⟩ := acts.outermost
    refine during.placed order_runTop (first.apart (fun op => (tops_op op).onward) along) ?_
    exact place.imp (fun same => ⟨same.1, same.2.1⟩) id
  | @inside above' outer r entered op t begun entry along ih =>
    have inside := along.during entry
    cases ih with
    | after ended => exact .after (Session.course.trans ended inside.begins)
    | before ended => exact .before (Session.course.trans inside.ended ended)
    | same act => subst act; cases entry
    | within between beneath =>
      subst beneath
      obtain ⟨entered', middle, u, entry', first, during, place⟩ := acts.beneath
      rw [entry] at entry'
      cases entry'
      refine during.placed (fun _ _ => Session.course.refl _) (first.apart (fun op => (runs_op op).onward) along) ?_
      rcases place with ⟨same, at', -⟩ | ⟨rest, rfl⟩
      · exact .inl ⟨same, at'⟩
      · exact .inr ⟨rest, by rw [List.append_assoc]; rfl⟩

/-- A scope has dropped some of its wrappers, and goes on to drop the others. -/
theorem order_dropped {frame : Frame} {outer : List Frame} {dropped rest : List Wrapper} (innermost : t.frames = frame :: outer)
    (divided : frame.wrappers.map (·.2) = dropped ++ rest)
    (ended : ends (lift (Wrapper.dropAll dropped)) { t with frames := outer } = (.ok (), u)) :
    Session.course.order u (ends closeFrame t).2 := by
  have partings : frame.partings = dropped.map .drop ++ (rest.map .drop ++ frame.guard?.toList.map .release) := by
    rw [Frame.partings, ← List.append_assoc, ← List.map_append, ← divided, List.map_map]
    rfl
  rw [ends_closeFrame_partings innermost, partings, Parting.carryOutAll_append, ends_lift_bind,
    Parting.carryOutAll_drops, ends_bind_ok ended]
  exact goes_lift (Parting.goes_carryOutAll _) u

theorem Begun.during (begun : Begun program start (between ++ (op, s) :: above) inner t) : During inner t op s := by
  obtain ⟨entered, middle, u, entry, along, during, -⟩ := begun.beneath
  exact during.trans (along.during entry)

/-- What lies beneath an operation has ended when the body of that has. -/
theorem Begun.order_body (begun : Begun program start (between ++ (op, s) :: above) inner t) (entry : op.entry? s = some entered) :
    Session.course.order (ends (runOp inner) t).2 (ends (runBody op.body) entered).2 := by
  obtain ⟨entered', middle, u, entry', along, during, -⟩ := begun.beneath
  rw [entry] at entry'
  cases entry'
  exact Session.course.trans during.ended along.order_end

theorem order_runEach (along : Along runTop program start op s) :
    Session.course.order (ends (runTop op) s).2 (ends (runEach program) start).2 := by
  have goes (rest : List (Op α)) : Onward Session.course (runEach rest) := by
    induction rest with
    | nil => exact .pure _
    | cons op rest ih => exact (tops_op op).onward.bind fun _ => ih
  induction along with
  | here => exact order_then (Session.course.refl _) fun _ => goes _
  | later ended further ih =>
    rw [runEach, ends_bind_ok ended]
    exact ih

theorem order_runAll (program : List (Op α)) (start : Session α) :
    Session.course.order (ends (runEach program) start).2 (ends (runAll program) start).2 := by
  apply order_then (Session.course.refl _)
  intro _
  exact onward_closeFrame.bind fun _ session => .of_store (.refl _) rfl rfl rfl rfl le_rfl

/-- Whatever state a program comes through, lies before an action of it or after it. -/
theorem Reached.before_or_after (reached : Reached program start session hand) (acts : Begun program start above (.act action) s) :
    Session.course.order session s ∨ Session.course.order (ends (runOp (.act action)) s).2 session := by
  -- An operation that has ended lies after the action unless it ended before that.
  have ends_apart {above op t} (begun : Begun program start above op t) :
      Session.course.order (ends (runOp op) t).2 s ∨ Session.course.order (ends (runOp (.act action)) s).2 (ends (runOp op) t).2 := by
    cases acts.placed begun with
    | after ended => exact .inr (Session.course.trans ended ((runs_op op).onward t))
    | before ended => exact .inl ended
    | same act at' => subst act at'; exact .inr (Session.course.refl _)
    | within between beneath => subst beneath; exact .inr acts.during.ended
  cases reached with
  | begins begun =>
    cases acts.placed begun with
    | after ended => exact .inr ended
    | before ended => exact .inl (Session.course.trans ((runs_op _).onward _) ended)
    | same act at' => subst at'; exact .inl (Session.course.refl _)
    | within between beneath => subst beneath; exact .inl acts.during.begins
  | completes begun ended =>
    have apart := ends_apart begun
    rwa [ended] at apart
  | unwinds begun left =>
    have apart := ends_apart begun
    rwa [left] at apart
  | @drops above op t entered progress u frame outer dropped rest _ begun entry ran innermost divided ended =>
    have body : Session.course.order u session := by
      have goes := goes_lift (α := α) (Parting.goes_carryOutAll (dropped.map .drop)) { u with frames := outer }
      rwa [Parting.carryOutAll_drops, ended] at goes
    have closing : Session.course.order session (ends (runOp op) t).2 := by
      refine Session.course.trans (order_dropped innermost divided ended) ?_
      rw [ends_runOp entry ran]
      exact Session.course.trans (order_afterBody entry progress u) (order_recorded op.name (afterBody op t progress) u)
    cases acts.placed begun with
    | after later =>
      have bodies : Bodies false (runBody op.body) (runBody op.body) := (FollowsAll.refl op.body).bodies
      have inside := Session.course.trans (Op.onward_entry entry) (bodies.onward entered)
      rw [ran] at inside
      exact .inr (Session.course.trans later (Session.course.trans inside body))
    | before earlier => exact .inl (Session.course.trans closing earlier)
    | same act => subst act; cases entry
    | within between beneath =>
      subst beneath
      have inside := acts.order_body entry
      rw [ran] at inside
      exact .inr (Session.course.trans inside body)
  | finishes ended =>
    obtain ⟨op, t, along, during, -⟩ := acts.outermost
    have whole := Session.course.trans (order_runTop op t) (Session.course.trans (order_runEach along) (order_runAll program start))
    rw [ended] at whole
    exact .inr (Session.course.trans during.ended whole)

end CountBridge.Program
