import CountBridge.Proofs.Holders

/-! A run in steps. A step is an action, or what an operation does around its body: it is refused, or the
body is entered and left. All that a step does goes through one heap at most, the one that the action
names or the one that is bound, and whatever state a program comes through, such steps lead to it. -/

namespace CountBridge

def World.boundHeap? (world : World) : Option HeapId := world.binding?.map (·.heap)

namespace Program

variable {α : Type}

/-- The heap that an action asks itself. The other actions ask the bridge. -/
def Action.heap? : Action → Option Name
  | .boot heap | .heapInfo heap | .newPlain heap _ _ | .newBytes heap _ _ | .newVector heap _ | .newString heap _ _
  | .newError heap _ _ | .increment heap _ | .decrement heap _ | .push heap _ _ | .look heap _ | .alive heap _
  | .toString heap _ _ | .messageOf heap _ _ | .throwHandle heap _ | .hostRaise heap _ | .throwMessage heap _
  | .bootstrap heap _ _ => some heap
  | _ => none

def Action.through? (action : Action) (session : Session α) : Option HeapId :=
  match action.heap? with
  | some name => lookup name session.heaps
  | none => session.world.boundHeap?

/-- A step of a run, with the heap through which it goes. -/
inductive Advances (program : List (Op α)) (start : Session α) : Session α → Option HeapId → Session α → Prop
  | acts {above action s} (begun : Begun program start above (.act action) s) :
      Advances program start s (action.through? s) (ends (runOp (.act action)) s).2
  | refuses {above op s} (begun : Begun program start above op s) (composed : ∀ action, op ≠ .act action)
      (missing : op.entry? s = none) : Advances program start s none (ends (runOp op) s).2
  | enters {above op s entered} (begun : Begun program start above op s) (entry : op.entry? s = some entered) :
      Advances program start s none entered
  | leaves {above op s entered progress t} (begun : Begun program start above op s) (entry : op.entry? s = some entered)
      (ran : ends (runBody op.body) entered = (.ok progress, t)) :
      Advances program start t t.world.boundHeap? (ends (runOp op) s).2
  | drops {above op s entered progress t frame outer dropped rest u} (begun : Begun program start above op s)
      (entry : op.entry? s = some entered) (ran : ends (runBody op.body) entered = (.ok progress, t))
      (innermost : t.frames = frame :: outer) (divided : frame.wrappers.map (·.2) = dropped ++ rest)
      (ended : ends (lift (Wrapper.dropAll dropped)) { t with frames := outer } = (.ok (), u)) :
      Advances program start t t.world.boundHeap? u
  | uncaught {op s payload t} (begun : Begun program start [] op s) (left : ends (runOp op) s = (.error payload, t)) :
      Advances program start t t.world.boundHeap? (ends (runTop op) s).2
  | finishes {t u} (ran : ends (runEach program) start = (.ok (), t)) (ended : ends (runAll program) start = (.ok (), u)) :
      Advances program start t t.world.boundHeap? u

structure Stage where
  through? : Option HeapId
  before : Store
  after : Store

/-- One step after the other leads from the first session to the second. -/
inductive Leads (program : List (Op α)) (start first : Session α) : List Stage → Session α → Prop
  | here : Leads program start first [] first
  | later {stages s heap? t} (earlier : Leads program start first stages s) (step : Advances program start s heap? t) :
      Leads program start first (stages ++ [⟨heap?, s.world.store, t.world.store⟩]) t

variable {program body : List (Op α)} {start s t u entered session : Session α} {op inner : Op α}
  {above : List (Op α × Session α)} {stages stages' : List Stage} {heap? : Option HeapId} {hand : List Wrapper}

theorem Leads.trans (first : Leads program start s stages t) (second : Leads program start t stages' u) :
    Leads program start s (stages ++ stages') u := by
  induction second with
  | here => rwa [List.append_nil]
  | later earlier step ih =>
    rw [← List.append_assoc]
    exact .later ih step

/-- What no step ends, lasts. -/
theorem Leads.kept {fact : Session α → Prop} (each : ∀ {s heap? t}, Advances program start s heap? t → fact s → fact t)
    (leads : Leads program start s stages t) (known : fact s) : fact t := by
  induction leads with
  | here => exact known
  | later earlier step ih => exact each step ih

abbrev Comes (program : List (Op α)) (start s t : Session α) : Prop := ∃ stages, Leads program start s stages t

theorem Comes.refl (s : Session α) : Comes program start s s := ⟨_, .here⟩

theorem Advances.comes (step : Advances program start s heap? t) : Comes program start s t := ⟨_, .later .here step⟩

theorem Comes.trans (first : Comes program start s t) (second : Comes program start t u) : Comes program start s u := by
  obtain ⟨stages, leads⟩ := first
  obtain ⟨stages', leads'⟩ := second
  exact ⟨_, leads.trans leads'⟩

theorem comes_enclosing (begun : Begun program start above op s) (composed : ∀ action, op ≠ .act action)
    (encloses : ∀ entered, op.entry? s = some entered → Comes program start entered (ends (runBody op.body) entered).2) :
    Comes program start s (ends (runOp op) s).2 := by
  cases entry : op.entry? s with
  | none => exact (Advances.refuses begun composed entry).comes
  | some entered =>
    obtain ⟨progress, t, ran⟩ := runBody_returns op.body entered
    have inside := encloses _ entry
    rw [ran] at inside
    exact (Advances.enters begun entry).comes.trans (inside.trans (Advances.leaves begun entry ran).comes)

-- By recursion on the operations. That each of a body begins in the program is carried along the body.
mutual

theorem comes_op : (op : Op α) → ∀ {above s}, Begun program start above op s → Comes program start s (ends (runOp op) s).2
  | .act _ => fun begun => (Advances.acts begun).comes
  | .attempt _ body _ | .hostTrap _ body _ | .runRoutine _ body _ | .trap body _ _ | .guarded body _ | .scope body
  | .scoped _ body | .thread body _ | .trapFuture body _ _ | .spawn body _ _ => fun begun =>
    comes_enclosing begun (fun _ same => by cases same) fun _ entry =>
      comes_body body _ fun _ _ along => ⟨_, begun.inside entry along⟩

theorem comes_body : (body : List (Op α)) → ∀ s,
    (∀ inner t, Along runOp body s inner t → ∃ above, Begun program start above inner t) →
      Comes program start s (ends (runBody body) s).2
  | [] => fun s _ => .refl s
  | op :: rest => fun s begins => by
    obtain ⟨above, begun⟩ := begins op s .here
    have first := comes_op op begun
    rw [runBody, ends_bind, ends_outcomeOf]
    rcases ended : ends (runOp op) s with ⟨payload | value, t⟩
    · rw [ended] at first
      exact first
    · rw [ended] at first
      obtain ⟨progress, u, ran⟩ := runBody_returns rest t
      have further := comes_body rest t fun inner t along => begins inner t (.later ended along)
      rw [ran] at further
      dsimp only
      rw [ends_bind_ok ran]
      exact first.trans further

end

theorem comes_top (begun : Begun program start [] op s) : Comes program start s (ends (runTop op) s).2 := by
  have first := comes_op op begun
  rcases ended : ends (runOp op) s with ⟨payload | value, t⟩
  · rw [ended] at first
    exact first.trans (Advances.uncaught begun ended).comes
  · rw [ended] at first
    rw [runTop, ends_bind, ends_outcomeOf, ended]
    exact first

theorem Along.comes {run : Op α → Run α Unit} (along : Along run body s inner t)
    (each : ∀ inner t, Along run body s inner t → Comes program start t (ends (run inner) t).2) : Comes program start s t := by
  induction along with
  | here => exact .refl _
  | later ended further ih =>
    have first := each _ _ .here
    rw [ended] at first
    exact first.trans (ih fun inner t along => each inner t (.later ended along))

theorem Begun.comes (begun : Begun program start above op s) : Comes program start start s := by
  induction begun with
  | top along => exact along.comes fun _ _ along => comes_top (.top along)
  | inside outer entry along ih =>
    have body := along.comes fun inner _ along => comes_op inner (outer.inside entry along)
    exact ih.trans ((Advances.enters outer entry).comes.trans body)

theorem comes_each (rest : List (Op α)) (begins : ∀ inner t, Along runTop rest s inner t → Begun program start [] inner t) :
    Comes program start s (ends (runEach rest) s).2 := by
  induction rest generalizing s with
  | nil => exact .refl s
  | cons op rest ih =>
    have first := comes_top (begins op s .here)
    rw [runEach]
    rcases ended : ends (runTop op) s with ⟨payload | value, t⟩
    · rw [ended] at first
      rw [ends_bind_error ended]
      exact first
    · rw [ended] at first
      rw [ends_bind_ok ended]
      exact first.trans (ih fun inner u along => begins inner u (.later ended along))

/-- Whatever a program comes through, it comes to step by step. -/
theorem Reached.comes (reached : Reached program start session hand) : Comes program start start session := by
  cases reached with
  | begins begun => exact begun.comes
  | completes begun ended =>
    have last := comes_op _ begun
    rw [ended] at last
    exact begun.comes.trans last
  | unwinds begun left =>
    have last := comes_op _ begun
    rw [left] at last
    exact begun.comes.trans last
  | @drops above op s entered progress t frame outer dropped rest _ begun entry ran innermost divided ended =>
    have body : Comes program start entered (ends (runBody op.body) entered).2 :=
      comes_body op.body entered fun _ _ along => ⟨_, begun.inside entry along⟩
    rw [ran] at body
    have inside := (Advances.enters begun entry).comes.trans body
    exact begun.comes.trans (inside.trans (Advances.drops begun entry ran innermost divided ended).comes)
  | finishes ended =>
    have each : Comes program start start (ends (runEach program) start).2 := comes_each program fun _ _ along => .top along
    rcases ran : ends (runEach program) start with ⟨payload | value, t⟩
    · rw [runAll, ends_bind_error ran] at ended
      cases ended
    · rw [ran] at each
      exact each.trans (Advances.finishes ran ended).comes

end Program

end CountBridge
