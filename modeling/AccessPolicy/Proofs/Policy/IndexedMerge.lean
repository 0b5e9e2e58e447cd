import AccessPolicy.Proofs.Policy.AccessRelation
import AccessPolicy.Proofs.Policy.MergedForm
import Mathlib.Data.List.Forall2

/-!
# Merging in one pass with an index

A merge need not search its result for every binding.  It can keep an index that
tells where the entry of each role stands, and for each entry a set of the
members that it holds.  Every step then looks things up by position, in the
entries and in the sets, and a position could miss.  None does: the index, the
sets and the entries stay in step, and so the pass ends with the merged list.
-/

namespace AccessPolicy

/-- What a pass with an index keeps. -/
structure IndexedMerge where
  /-- The merged entries so far. -/
  merged : List Binding := []
  /-- Where the entry of each role stands. -/
  index : Std.HashMap String Nat := ∅
  /-- For each entry the members that it holds. -/
  held : List (Std.HashSet String) := []

namespace IndexedMerge

def extend (pass : IndexedMerge) (role : String) : IndexedMerge where
  merged := pass.merged ++ [⟨role, []⟩]
  index := pass.index.insert role pass.merged.length
  held := pass.held ++ [∅]

/-- The place of the entry for a role, which is a new one behind the others
if there was none. -/
def locate (pass : IndexedMerge) (role : String) : Nat × IndexedMerge :=
  match pass.index[role]? with
  | some place => (place, pass)
  | none => ((pass.extend role).merged.length - 1, pass.extend role)

def grow (pass : IndexedMerge) (place : Nat) (entry : Binding)
    (held : Std.HashSet String) (member : String) : IndexedMerge where
  merged :=
    pass.merged.set place { entry with members := entry.members ++ [member] }
  index := pass.index
  held := pass.held.set place (held.insert member)

/-- Put a member into the entry at a place, unless it is held there.  There is
no outcome if the place is missed. -/
def takeMember (place : Nat) (pass : IndexedMerge) (member : String) :
    Option IndexedMerge := do
  let held ← pass.held[place]?
  if member ∈ held then return pass
  let entry ← pass.merged[place]?
  return pass.grow place entry held member

def take (pass : IndexedMerge) (binding : Binding) : Option IndexedMerge :=
  let (place, located) := pass.locate binding.role
  binding.members.foldlM (takeMember place) located

def run? (bindings : List Binding) : Option (List Binding) :=
  (bindings.foldlM take {}).map (·.merged)

/-- The index tells where the entries stand, and each entry has the set of its
members beside it. -/
structure InStep (pass : IndexedMerge) : Prop where
  index : ∀ role, pass.index[role]? = (rolesOf pass.merged).idxOf? role
  held : List.Forall₂ (fun held entry => ∀ member, member ∈ held ↔
    member ∈ entry.members)
    pass.held pass.merged

end IndexedMerge

section

variable {α β : Type} {R : α → β → Prop} {first : List α} {second : List β}
    {place : Nat}

theorem forall₂_getElem? (hlists : List.Forall₂ R first second) {value : β}
    (hvalue : second[place]? = some value) :
    ∃ other, first[place]? = some other ∧ R other value := by
  induction hlists generalizing place with
  | nil => cases hvalue
  | cons hhead _ ih =>
      cases place with
      | zero =>
          cases hvalue
          exact ⟨_, rfl, hhead⟩
      | succ place => exact ih hvalue

theorem forall₂_set (hlists : List.Forall₂ R first second) {value : β}
    {other : α} (hvalue : R other value) :
    List.Forall₂ R (first.set place other) (second.set place value) := by
  induction hlists generalizing place with
  | nil => exact .nil
  | cons hhead htail ih =>
      cases place with
      | zero => exact .cons hvalue htail
      | succ place => exact .cons hhead ih

end

theorem set_of_getElem? {entries : List Binding} {place : Nat} {entry : Binding}
    (hentry : entries[place]? = some entry) :
    entries.set place entry = entries := by
  obtain ⟨hplace, rfl⟩ := List.getElem?_eq_some_iff.1 hentry
  exact List.set_getElem_self hplace

/-- To change the members of an entry is to leave its role in place. -/
theorem rolesOf_set {entries : List Binding} {place : Nat}
    {entry changed : Binding} (hentry : entries[place]? = some entry)
    (hrole : changed.role = entry.role) :
    rolesOf (entries.set place changed) = rolesOf entries :=
  calc
    rolesOf (entries.set place changed) =
      (rolesOf entries).set place changed.role := List.map_set
    _ = rolesOf (entries.set place entry) := by
      rw [hrole]; exact List.map_set.symm
    _ = rolesOf entries := by rw [set_of_getElem? hentry]

/-- The entry that takes in a binding is the first one for its role. -/
theorem absorb_eq_set {merged : List Binding} {binding entry : Binding}
    {place : Nat} (hplace : (rolesOf merged).idxOf? binding.role = some place)
    (hentry : merged[place]? = some entry) :
    absorb merged binding =
      merged.set place ⟨entry.role,
        addMembers entry.members binding.members⟩ := by
  induction merged generalizing place with
  | nil => cases hentry
  | cons head tail ih =>
      rw [rolesOf_cons, List.idxOf?_cons] at hplace
      rw [absorb]
      by_cases hrole : head.role = binding.role
      · rw [if_pos (beq_iff_eq.2 hrole)] at hplace
        cases hplace
        cases hentry
        rw [if_pos hrole]
        rfl
      · rw [if_neg (fun hsame => hrole (beq_iff_eq.1 hsame))] at hplace
        obtain ⟨earlier, hearlier, rfl⟩ := Option.map_eq_some_iff.1 hplace
        rw [if_neg hrole, ih hearlier hentry]
        rfl

/-- An empty entry behind the others is the one that a new role gets. -/
theorem absorb_append_empty {merged : List Binding} {binding : Binding}
    (hnew : binding.role ∉ rolesOf merged) :
    absorb (merged ++ [⟨binding.role, []⟩]) binding =
      absorb merged binding := by
  induction merged with
  | nil => exact if_pos rfl
  | cons head tail ih =>
      have hhead : head.role ≠ binding.role :=
        fun heq => hnew (heq ▸ List.mem_cons_self)
      have htail : binding.role ∉ rolesOf tail :=
        fun hmem => hnew (List.mem_cons_of_mem _ hmem)
      rw [List.cons_append, absorb, absorb, if_neg hhead,
        if_neg hhead, ih htail]

namespace IndexedMerge

variable {pass : IndexedMerge} {place : Nat} {entry : Binding}

theorem InStep.start : InStep {} where
  index _ := Std.HashMap.getElem?_empty
  held := .nil

/-- Where a role has no entry yet, its place is the one behind the others. -/
theorem InStep.extend (hstep : pass.InStep) {role : String}
    (hnew : role ∉ rolesOf pass.merged) : (pass.extend role).InStep where
  index other := by
    have hlength : (rolesOf pass.merged).length = pass.merged.length :=
      List.length_map _
    rw [IndexedMerge.extend, Std.HashMap.getElem?_insert, hstep.index,
      rolesOf_append, List.idxOf?, List.findIdx?_append]
    by_cases hother : role = other
    · have hnone : (rolesOf pass.merged).findIdx? (· == other) = none :=
        List.idxOf?_eq_none_iff.2 (hother ▸ hnew)
      simp [hother, hnone, hlength]
    · simp [hother]
  held := by
    refine List.rel_append hstep.held (.cons ?_ .nil)
    intro member
    simp

/-- A role is located where its entry stands, which takes in bindings as the
merged list would. -/
theorem InStep.locate (hstep : pass.InStep) (binding : Binding) :
    let (place, located) := pass.locate binding.role
    located.InStep ∧ (rolesOf located.merged).idxOf? binding.role = some place ∧
      absorb located.merged binding = absorb pass.merged binding := by
  have hindex := hstep.index binding.role
  cases hplace : pass.index[binding.role]? with
  | some place =>
      simp only [IndexedMerge.locate, hplace]
      exact ⟨hstep, hindex.symm.trans hplace, trivial⟩
  | none =>
      simp only [IndexedMerge.locate, hplace]
      have hnew : binding.role ∉ rolesOf pass.merged :=
        List.idxOf?_eq_none_iff.1 (hindex.symm.trans hplace)
      have hextended := hstep.extend hnew
      have hlast : (pass.extend binding.role).merged.length - 1 =
          pass.merged.length := by
        simp [IndexedMerge.extend]
      refine ⟨hextended, ?_, absorb_append_empty hnew⟩
      rw [hlast, ← hextended.index]
      exact Std.HashMap.getElem?_insert_self

/-- A member that is put behind the others is put into their set. -/
theorem InStep.grow (hstep : pass.InStep)
    (hentry : pass.merged[place]? = some entry) {held : Std.HashSet String}
    (hsame : ∀ member, member ∈ held ↔ member ∈ entry.members)
    (member : String) : (pass.grow place entry held member).InStep where
  index role := by
    have hroles : rolesOf (pass.grow place entry held member).merged =
        rolesOf pass.merged :=
      rolesOf_set hentry rfl
    rw [hroles]
    exact hstep.index role
  held := by
    apply forall₂_set hstep.held
    intro other
    rw [Std.HashSet.mem_insert, hsame, List.mem_append, List.mem_singleton,
      beq_iff_eq, or_comm, @eq_comm _ member]

/-- No place is missed when a member is put into an entry that is there. -/
theorem InStep.takeMember (hstep : pass.InStep)
    (hentry : pass.merged[place]? = some entry) (member : String) :
    ∃ next, pass.takeMember place member = some next ∧ next.InStep ∧
      next.merged =
        pass.merged.set place ⟨entry.role, addMember entry.members member⟩ := by
  obtain ⟨held, hheld, hsame⟩ := forall₂_getElem? hstep.held hentry
  by_cases hmember : member ∈ held
  · refine ⟨pass, ?_, hstep, ?_⟩
    · simp [IndexedMerge.takeMember, hheld, hmember]
    · rw [addMember_of_mem ((hsame member).1 hmember)]
      exact (set_of_getElem? hentry).symm
  · have hnew : member ∉ entry.members :=
      fun hmem => hmember ((hsame member).2 hmem)
    refine ⟨pass.grow place entry held member, ?_,
      hstep.grow hentry hsame member, ?_⟩
    · simp [IndexedMerge.takeMember, hheld, hmember, hentry]
    · rw [addMember_of_not_mem hnew]
      rfl

/-- Nor when several members are put into it. -/
theorem InStep.takeMembers (hstep : pass.InStep)
    (hentry : pass.merged[place]? = some entry) (members : List String) :
    ∃ next, members.foldlM (IndexedMerge.takeMember place) pass = some next ∧
      next.InStep ∧
      next.merged = pass.merged.set place ⟨entry.role,
        addMembers entry.members members⟩ := by
  induction members generalizing pass entry with
  | nil => exact ⟨pass, rfl, hstep, (set_of_getElem? hentry).symm⟩
  | cons member rest ih =>
      obtain ⟨between, hrun, hbetween, hmerged⟩ :=
        hstep.takeMember hentry member
      have hplace : place < pass.merged.length :=
        (List.getElem?_eq_some_iff.1 hentry).1
      have hgrown : between.merged[place]? =
          some ⟨entry.role, addMember entry.members member⟩ := by
        rw [hmerged, List.getElem?_set_self hplace]
      obtain ⟨next, hrest, hnext, hlast⟩ := ih hbetween hgrown
      refine ⟨next, ?_, hnext, ?_⟩
      · rw [List.foldlM_cons, hrun]
        exact hrest
      · rw [hlast, hmerged, List.set_set]
        rfl

/-- A pass takes in every binding, as the merged list would. -/
theorem InStep.take (hstep : pass.InStep) (binding : Binding) :
    ∃ next, pass.take binding = some next ∧ next.InStep ∧
      next.merged = absorb pass.merged binding := by
  have hlocate := hstep.locate binding
  rw [IndexedMerge.take]
  generalize pass.locate binding.role = located at hlocate ⊢
  obtain ⟨place, located⟩ := located
  obtain ⟨hlocated, hplace, habsorb⟩ := hlocate
  have hlength : place < located.merged.length := by
    obtain ⟨hlength, -⟩ := List.idxOf?_eq_some_iff.1 hplace
    rwa [rolesOf, List.length_map] at hlength
  have hentry : located.merged[place]? = some located.merged[place] :=
    List.getElem?_eq_getElem hlength
  obtain ⟨next, hrun, hnext, hmerged⟩ :=
    hlocated.takeMembers hentry binding.members
  refine ⟨next, hrun, hnext, ?_⟩
  rw [hmerged, ← habsorb, absorb_eq_set hplace hentry]

/-- A whole pass misses no place, and its entries are those of the merged
list. -/
theorem InStep.foldlM (hstep : pass.InStep) (bindings : List Binding) :
    ∃ last, bindings.foldlM IndexedMerge.take pass = some last ∧ last.InStep ∧
      last.merged = bindings.foldl absorb pass.merged := by
  induction bindings generalizing pass with
  | nil => exact ⟨pass, rfl, hstep, rfl⟩
  | cons head tail ih =>
      obtain ⟨next, hrun, hnext, hmerged⟩ := hstep.take head
      obtain ⟨last, hrest, hlast, hfold⟩ := ih hnext
      refine ⟨last, ?_, hlast, ?_⟩
      · rw [List.foldlM_cons, hrun]
        exact hrest
      · rw [hfold, hmerged]
        rfl

end IndexedMerge

/-! ## What a merge yields -/

theorem count_rolesOf_mergeBindings (bindings : List Binding) (role : String) :
    (rolesOf (mergeBindings bindings)).count role =
      if role ∈ rolesOf bindings then 1 else 0 := by
  by_cases hrole : role ∈ rolesOf bindings
  · rw [if_pos hrole]
    exact List.count_eq_one_of_mem (nodup_rolesOf_mergeBindings bindings)
      (mem_rolesOf_mergeBindings.2 hrole)
  · rw [if_neg hrole]
    exact List.count_eq_zero_of_not_mem fun hmem =>
      hrole (mem_rolesOf_mergeBindings.1 hmem)

/-- A merge yields one entry for each role that occurs, in the order in which
the roles first occur.  Its members are those of all entries for the role, one
entry after the other, of which the first occurrences are kept.  The pass with
an index yields the same: whatever number of bindings it has taken in, it has
missed no place, and its index and its sets are in step with the entries. -/
theorem merges_by_first_appearance (bindings : List Binding) :
    mergeBindings bindings =
        (rolesOf bindings).eraseDups.map
          (fun role => ⟨role, (membersOf role bindings).eraseDups⟩) ∧
      (∀ role, (rolesOf (mergeBindings bindings)).count role =
        if role ∈ rolesOf bindings then 1 else 0) ∧
      IndexedMerge.run? bindings = some (mergeBindings bindings) ∧
      ∀ number, ∃ pass,
        (bindings.take number).foldlM IndexedMerge.take {} = some pass ∧
        pass.InStep ∧ pass.merged = mergeBindings (bindings.take number) := by
  refine ⟨mergeBindings_eq_map bindings, count_rolesOf_mergeBindings bindings,
    ?whole, ?parts⟩
  case whole =>
    obtain ⟨last, hrun, -, hmerged⟩ := IndexedMerge.InStep.start.foldlM bindings
    rw [IndexedMerge.run?, hrun, Option.map_some, hmerged]
    rfl
  case parts =>
    intro number
    exact IndexedMerge.InStep.start.foldlM (bindings.take number)

end AccessPolicy
