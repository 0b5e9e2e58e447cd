import AccessPolicy.Proofs.Arena.Interference
import AccessPolicy.Proofs.Cycle

/-!
# Accounts of a stretch of a run

Between two worlds an operation fetches and commits, and other writers act
around its fetches.  An account says how many requests there were, how many
commits the authority accepted, and how the store came about: either other
writers alone made it, or exactly one change of the operation's own was inserted
among what they did.  Accounts of consecutive stretches add up.
-/

namespace AccessPolicy

def Event.isStored : Event → Bool
  | stored .. => true
  | _ => false

namespace Arena

/-- The number of commits that the authority has said to have accepted. -/
def acceptances (world : World Arena) : Nat :=
  world.log.countP (·.isStored)

/-- So many fetches were served and commits answered, and so many of these were
accepted.  Each fetch used up the interference that was laid down around it. -/
structure Requests (fetches commits accepted : Nat)
    (world later : World Arena) : Prop where
  queue : later.remote.races = world.remote.races.drop fetches
  served : later.remote.authority.fetches =
    world.remote.authority.fetches + fetches
  answered : later.remote.authority.commits =
    world.remote.authority.commits + commits
  acceptances : acceptances later = acceptances world + accepted

/-- No commit was accepted, and the store is what other writers alone
made of it. -/
structure OthersOnly (own : String) (fetches commits : Nat)
    (world later : World Arena) : Prop
    extends Requests fetches commits 0 world later where
  stored : later.remote.authority.stored =
    (Interference.applyAll own world.remote.authority
      (world.remote.coming fetches)).stored

/-- Among the doings of other writers one change of one's own was made to the
bindings that were stored at one point, and accepted at a later point.  Between
the two points nobody wrote to the resource, unless they wrote so often that its
version counter came full circle. -/
def Inserted (own : String) (edit : List Binding → List Binding)
    (start : Authority) (changes : List Interference)
    (final : Authority) : Prop :=
  ∃ early gap late, changes = early ++ gap ++ late ∧
    (gap.countP (·.touches own) = 0 ∨ 2 ^ 64 ≤ gap.countP (·.touches own)) ∧
    final.stored =
      (Interference.applyAll own
        ((Interference.applyAll own start (early ++ gap)).write own
          (edit ((Interference.applyAll own start early).stored own).bindings))
        late).stored

/-- Exactly one commit was accepted, and the store is what other writers and
this one change made of it. -/
structure OneWrite (own : String) (edit : List Binding → List Binding)
    (fetches commits : Nat) (world later : World Arena) : Prop
    extends Requests fetches commits 1 world later where
  stored :
    Inserted own edit world.remote.authority (world.remote.coming fetches)
      later.remote.authority

/-- The bindings of every resource are those from before, edited by the
other writers alone. -/
def EditedByOthers (own : String) (fetches : Nat)
    (world later : World Arena) : Prop :=
  ∀ target, (later.remote.authority.stored target).bindings =
    Interference.editAll (world.remote.authority.stored target).bindings
      (Interference.edits own target (world.remote.coming fetches))

/-- The bindings of one's own resource are those from before, edited once by
oneself among the edits of the others.  No edit of the others is lost, unless
there were so many in a row that the version counter came full circle.  The
bindings of every other resource are edited by the others alone. -/
structure EditedOnce (own : String) (edit : List Binding → List Binding)
    (fetches : Nat) (world later : World Arena) : Prop where
  here : ∃ early lost late,
    Interference.edits own own (world.remote.coming fetches) =
      early ++ lost ++ late ∧
    (lost = [] ∨ 2 ^ 64 ≤ lost.length) ∧
    (later.remote.authority.stored own).bindings =
      Interference.editAll (world.remote.authority.stored own).bindings
        (early ++ edit :: late)
  elsewhere : ∀ target, target ≠ own →
    (later.remote.authority.stored target).bindings =
      Interference.editAll (world.remote.authority.stored target).bindings
        (Interference.edits own target (world.remote.coming fetches))

variable {own : String} {edit : List Binding → List Binding}
variable {fetches commits accepted fetches' commits' accepted' : Nat}
variable {world between later : World Arena}

theorem Requests.trans
    (hfirst : Requests fetches commits accepted world between)
    (hsecond : Requests fetches' commits' accepted' between later) :
    Requests (fetches + fetches') (commits + commits')
      (accepted + accepted') world later where
  queue := by rw [hsecond.queue, hfirst.queue, List.drop_drop]
  served := by rw [hsecond.served, hfirst.served, Nat.add_assoc]
  answered := by rw [hsecond.answered, hfirst.answered, Nat.add_assoc]
  acceptances := by rw [hsecond.acceptances, hfirst.acceptances, Nat.add_assoc]

/-- What is coming for several fetches is what is coming for the first of them,
and then for the others. -/
theorem Requests.coming_add
    (hfirst : Requests fetches commits accepted world between) (more : Nat) :
    world.remote.coming (fetches + more) =
      world.remote.coming fetches ++ between.remote.coming more := by
  rw [coming, coming, coming, hfirst.queue, List.take_add, List.flatMap_append]

theorem OthersOnly.refl (own : String) (world : World Arena) :
    OthersOnly own 0 0 world world where
  queue := rfl
  served := rfl
  answered := rfl
  acceptances := rfl
  stored := rfl

theorem OthersOnly.trans (hfirst : OthersOnly own fetches commits world between)
    (hsecond : OthersOnly own fetches' commits' between later) :
    OthersOnly own (fetches + fetches') (commits + commits') world later where
  toRequests := hfirst.toRequests.trans hsecond.toRequests
  stored := by
    rw [hsecond.stored, hfirst.coming_add, Interference.applyAll_append]
    exact Interference.stored_applyAll_congr own hfirst.stored _

/-- A change stays inserted when more was done before it. -/
theorem Inserted.prepend {start middle final : Authority}
    {before changes : List Interference}
    (hbefore : middle.stored = (Interference.applyAll own start before).stored)
    (hinserted : Inserted own edit middle changes final) :
    Inserted own edit start (before ++ changes) final := by
  obtain ⟨early, gap, late, rfl, huntouched, hstored⟩ := hinserted
  refine ⟨before ++ early, gap, late, by simp, huntouched, ?_⟩
  have hearly : (Interference.applyAll own middle early).stored =
      (Interference.applyAll own start (before ++ early)).stored := by
    rw [Interference.applyAll_append]
    exact Interference.stored_applyAll_congr own hbefore early
  have hgap : (Interference.applyAll own middle (early ++ gap)).stored =
      (Interference.applyAll own start (before ++ early ++ gap)).stored := by
    rw [Interference.applyAll_append, Interference.applyAll_append own start]
    exact Interference.stored_applyAll_congr own hearly gap
  rw [hstored, hearly]
  exact Interference.stored_applyAll_congr own
    (Authority.stored_write_congr hgap own _) late

/-- A change stays inserted when more is done after it. -/
theorem Inserted.append {start middle final : Authority}
    {changes after : List Interference}
    (hinserted : Inserted own edit start changes middle)
    (hafter : final.stored = (Interference.applyAll own middle after).stored) :
    Inserted own edit start (changes ++ after) final := by
  obtain ⟨early, gap, late, rfl, huntouched, hstored⟩ := hinserted
  refine ⟨early, gap, late ++ after, by simp, huntouched, ?_⟩
  rw [hafter, Interference.applyAll_append]
  exact Interference.stored_applyAll_congr own hstored after

/-- Where the bindings of one's own were inserted, one's own edit was made among
the edits of the others. -/
theorem Inserted.bindings_own {start final : Authority}
    {changes : List Interference}
    (hinserted : Inserted own edit start changes final) :
    ∃ early lost late,
      Interference.edits own own changes = early ++ lost ++ late ∧
      (lost = [] ∨ 2 ^ 64 ≤ lost.length) ∧
      (final.stored own).bindings =
        Interference.editAll (start.stored own).bindings
          (early ++ edit :: late) := by
  obtain ⟨early, gap, late, rfl, huntouched, hstored⟩ := hinserted
  refine ⟨Interference.edits own own early, Interference.edits own own gap,
    Interference.edits own own late, ?_, ?_, ?_⟩
  · rw [Interference.edits_append, Interference.edits_append]
  · rw [← List.length_eq_zero_iff, Interference.length_edits]
    exact huntouched
  · rw [hstored, Interference.bindings_applyAll, Authority.stored_write_self,
      Stored.write, Interference.bindings_applyAll, Interference.editAll_append]
    rfl

theorem Inserted.bindings_of_ne {start final : Authority}
    {changes : List Interference}
    (hinserted : Inserted own edit start changes final) {target : String}
    (htarget : target ≠ own) :
    (final.stored target).bindings =
      Interference.editAll (start.stored target).bindings
        (Interference.edits own target changes) := by
  obtain ⟨early, gap, late, rfl, -, hstored⟩ := hinserted
  rw [hstored, Interference.bindings_applyAll,
    Authority.stored_write_of_ne _ _ htarget, Interference.bindings_applyAll,
    Interference.edits_append own target (early ++ gap),
    Interference.editAll_append]

theorem OthersOnly.edited
    (hothers : OthersOnly own fetches commits world later) :
    EditedByOthers own fetches world later := by
  intro target
  rw [hothers.stored, Interference.bindings_applyAll]

theorem OneWrite.edited
    (hwrite : OneWrite own edit fetches commits world later) :
    EditedOnce own edit fetches world later where
  here := hwrite.stored.bindings_own
  elsewhere := fun _ htarget => hwrite.stored.bindings_of_ne htarget

theorem OthersOnly.then_write
    (hfirst : OthersOnly own fetches commits world between)
    (hsecond : OneWrite own edit fetches' commits' between later) :
    OneWrite own edit (fetches + fetches')
      (commits + commits') world later where
  toRequests := by
    have hrequests := hfirst.toRequests.trans hsecond.toRequests
    rwa [Nat.zero_add] at hrequests
  stored := by
    rw [hfirst.coming_add]
    exact hsecond.stored.prepend hfirst.stored

theorem OneWrite.then_others
    (hfirst : OneWrite own edit fetches commits world between)
    (hsecond : OthersOnly own fetches' commits' between later) :
    OneWrite own edit (fetches + fetches')
      (commits + commits') world later where
  toRequests := hfirst.toRequests.trans hsecond.toRequests
  stored := by
    rw [hfirst.coming_add]
    exact hfirst.stored.append hsecond.stored

end Arena

end AccessPolicy
