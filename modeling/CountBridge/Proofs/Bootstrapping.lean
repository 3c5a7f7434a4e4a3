import CountBridge.Bootstrap
import CountBridge.Proofs.Boundary

/-! Binding a system keeps the accounts: nothing waits in the new queue, and the
heap that is bound can raise from then on. -/

namespace CountBridge

open Bridge World

variable {late bound : Bool} {heap : HeapId} {world : World}

theorem modify_booted (heaps : Array Heap) (booted : (heaps[heap]?.getD {}).booted = true) :
    heaps.modify heap (fun counters => { counters with booted := true }) = heaps := by
  apply Array.ext_getElem?
  intro index
  rw [Array.getElem?_modify]
  split
  next here =>
    subst here
    cases found : heaps[heap]? with
    | none => rfl
    | some counters =>
      simp only [found, Option.getD_some] at booted
      rw [Option.map_some, ← booted]
  next => rfl

theorem ends_boot (heap : HeapId) (world : World) : ∃ journal, ends (Bound.boot heap) world = (.ok (), { world with
    heaps := world.heaps.modify heap fun counters => { counters with booted := true }
    journal }) := by
  have asked (world : World) : ends (heapAt heap) world = (.ok (world.heaps[heap]?.getD {}), world) := rfl
  simp only [Bound.boot, ends_before, Native.boot, ends_bind, asked]
  cases booted : (world.heaps[heap]?.getD {}).booted with
  | true =>
    rw [modify_booted world.heaps booted]
    exact ⟨_, rfl⟩
  | false => exact ⟨_, rfl⟩

variable {config checked : Config} {version : UInt32}

theorem ends_bootstrap_taken (heap : HeapId) (valid : config.validate = .ok checked)
    (matching : checkVersion version = .ok ()) (taken : world.binding?.isSome = true) :
    ends (bootstrap heap config version) world = (.ok (.error .alreadyBootstrapped), { world with
      journal := world.journal.push (.call .version true) }) := by
  have asked : ends Bound.askVersion world = (.ok (), { world with
      journal := world.journal.push (.call .version true) }) := rfl
  simp only [bootstrap, valid]
  rw [ends_bind_ok asked]
  simp only [matching]
  rw [ends_bind_ok (ends_get _)]
  dsimp only
  rw [if_pos taken]
  rfl

theorem ends_bootstrap_free (heap : HeapId) (valid : config.validate = .ok checked)
    (matching : checkVersion version = .ok ()) (free : world.binding? = none) : ∃ journal, ends (bootstrap heap config version) world =
      (.ok (.ok checked), { world with
        heaps := world.heaps.modify heap fun counters => { counters with booted := true }
        binding? := some { heap, config := checked }
        journal }) := by
  have asked : ends Bound.askVersion world = (.ok (), { world with
      journal := world.journal.push (.call .version true) }) := rfl
  obtain ⟨journal, booted⟩ := ends_boot heap { world with journal := world.journal.push (.call .version true) }
  refine ⟨journal.push (.event (.bootstrapped checked.policy)), ?_⟩
  simp only [bootstrap, valid]
  rw [ends_bind_ok asked]
  simp only [matching]
  rw [ends_bind_ok (ends_get _)]
  dsimp only
  rw [if_neg (by simp [free]), ends_bind_ok booted]
  rfl

theorem goes_bootstrap (heap : HeapId) (config : Config) (version : UInt32) :
    Goes (bootstrap heap config version) := by
  intro world
  cases valid : config.validate with
  | error error =>
    rw [bootstrap, valid]
    exact World.Continues.refl world
  | ok checked =>
    cases matching : checkVersion version with
    | error error =>
      simp only [bootstrap, valid, matching]
      exact continues_journal world _
    | ok accepted =>
      cases free : world.binding? with
      | none =>
        obtain ⟨journal, ended⟩ := ends_bootstrap_free heap valid matching free
        rw [ended]
        exact ⟨.refl _, rfl, fun binding found => (by simp [free] at found), by simp, id, id⟩
      | some binding =>
        have taken : world.binding?.isSome = true := by simp [free]
        rw [ends_bootstrap_taken heap valid matching taken]
        exact continues_journal world _

/-- Only a heap that is there can be booted. -/
theorem sim_bootstrap {held : Multiset ObjectId} (config : Config) (version : UInt32) :
    Sim World.course (fun s t => Linked late bound held s t ∧ heap < t.heaps.size) (bootstrap heap config version)
      (bootstrap heap config version) Eq (fun _ _ => Linked late bound held) fun _ _ _ => False := by
  refine ⟨goes_bootstrap heap config version, goes_bootstrap heap config version, fun s t ⟨linked, inside⟩ _ _ => ?_⟩
  cases valid : config.validate with
  | error error =>
    rw [bootstrap, valid]
    exact .value rfl linked
  | ok checked =>
    cases matching : checkVersion version with
    | error error =>
      simp only [bootstrap, valid, matching]
      exact .value rfl (linked.journal fun never => by rw [linked.same never])
    | ok accepted =>
      cases free : t.binding? with
      | some binding =>
        have taken : t.binding?.isSome = true := by simp [free]
        rw [ends_bootstrap_taken heap valid matching (linked.isBound.trans taken),
          ends_bootstrap_taken heap valid matching taken]
        exact .value rfl (linked.journal fun never => by rw [linked.same never])
      | none =>
        have prompt : late = false := by
          cases late with
          | false => rfl
          | true =>
            obtain ⟨_, _, _, -, -, found, -⟩ := (linked.behind rfl).binding
            simp [free] at found
        obtain ⟨journal, ended⟩ := ends_bootstrap_free heap valid matching free
        rw [linked.same prompt, ended]
        refine .value rfl ⟨⟨?_, fun binding found => ?_, fun _ => rfl⟩, fun _ => rfl, fun behind => ?_⟩
        · have exact := linked.sound.exact
          rw [queued, free] at exact
          exact exact
        · cases found
          simp [inside, Array.getElem_modify]
        · simp [prompt] at behind

end CountBridge
