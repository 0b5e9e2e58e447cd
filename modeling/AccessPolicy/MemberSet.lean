/-!
# Sets of principals

A declared binding names a set of principals: order and repetition carry no
meaning.  A set is kept as its strictly increasing list of names, in code-point
order, so that equal sets are equal values and every set has one written form.
-/

namespace AccessPolicy

/-- A finite set of principals, as the strictly increasing list of their
names. -/
structure MemberSet where
  toList : List String
  increasing : toList.Pairwise (· < ·)
  deriving DecidableEq

namespace MemberSet

instance : Membership String MemberSet :=
  ⟨fun set member => member ∈ set.toList⟩

instance (member : String) (set : MemberSet) : Decidable (member ∈ set) :=
  inferInstanceAs (Decidable (member ∈ set.toList))

theorem mem_toList {member : String} {set : MemberSet} :
    member ∈ set.toList ↔ member ∈ set :=
  Iff.rfl

def empty : MemberSet := ⟨[], .nil⟩

instance : EmptyCollection MemberSet := ⟨empty⟩

instance : Inhabited MemberSet := ⟨empty⟩

/-- Put a name into its place in an increasing list that does not hold it
yet. -/
def insertSorted (member : String) : List String → List String
  | [] => [member]
  | head :: tail =>
    if member < head then member :: head :: tail
    else if member = head then head :: tail
    else head :: insertSorted member tail

theorem mem_insertSorted {member other : String} {names : List String} :
    other ∈ insertSorted member names ↔ other = member ∨ other ∈ names := by
  induction names with
  | nil => simp [insertSorted]
  | cons head tail ih =>
      rw [insertSorted]
      by_cases hlt : member < head
      · rw [if_pos hlt, List.mem_cons]
      · rw [if_neg hlt]
        by_cases heq : member = head
        · rw [if_pos heq, heq, List.mem_cons, or_self_left]
        · rw [if_neg heq, List.mem_cons, ih, List.mem_cons, or_left_comm]

theorem pairwise_insertSorted {member : String} {names : List String}
    (hnames : names.Pairwise (· < ·)) :
    (insertSorted member names).Pairwise (· < ·) := by
  induction names with
  | nil => simp [insertSorted]
  | cons head tail ih =>
      have hhead : ∀ other ∈ tail, head < other :=
        fun _ => List.rel_of_pairwise_cons hnames
      rw [insertSorted]
      by_cases hlt : member < head
      · rw [if_pos hlt]
        refine List.pairwise_cons.2 ⟨?_, hnames⟩
        intro other hother
        obtain rfl | htail := List.mem_cons.1 hother
        · exact hlt
        · exact String.lt_trans hlt (hhead other htail)
      · rw [if_neg hlt]
        by_cases heq : member = head
        · rwa [if_pos heq]
        · rw [if_neg heq]
          refine List.pairwise_cons.2 ⟨?_, ih hnames.of_cons⟩
          intro other hother
          obtain rfl | htail := mem_insertSorted.1 hother
          · exact Decidable.byContradiction fun hnot =>
              heq (String.le_antisymm hnot hlt)
          · exact hhead other htail

def insert (set : MemberSet) (member : String) : MemberSet :=
  ⟨insertSorted member set.toList, pairwise_insertSorted set.increasing⟩

def ofList (members : List String) : MemberSet :=
  members.foldl insert empty

def diff (left right : MemberSet) : MemberSet :=
  ⟨left.toList.filter (· ∉ right), left.increasing.filter _⟩

instance : SDiff MemberSet := ⟨diff⟩

def isEmpty (set : MemberSet) : Bool := set.toList.isEmpty

@[simp]
theorem not_mem_empty (member : String) : ¬ member ∈ (∅ : MemberSet) :=
  List.not_mem_nil

@[simp]
theorem mem_insert {set : MemberSet} {member other : String} :
    other ∈ set.insert member ↔ other = member ∨ other ∈ set :=
  mem_insertSorted

private theorem mem_foldl_insert {members : List String} {set : MemberSet}
    {member : String} :
    member ∈ members.foldl insert set ↔ member ∈ members ∨ member ∈ set := by
  induction members generalizing set with
  | nil => simp
  | cons head tail ih =>
      rw [List.foldl_cons, ih, mem_insert, List.mem_cons,
        or_left_comm, or_assoc]

@[simp]
theorem mem_ofList {members : List String} {member : String} :
    member ∈ ofList members ↔ member ∈ members := by
  rw [ofList, mem_foldl_insert]
  simp only [show ¬ member ∈ empty from List.not_mem_nil, or_false]

@[simp]
theorem mem_sdiff {left right : MemberSet} {member : String} :
    member ∈ left \ right ↔ member ∈ left ∧ ¬ member ∈ right := by
  show member ∈ left.toList.filter (· ∉ right) ↔ _
  simp [List.mem_filter, mem_toList]

theorem nodup_toList (set : MemberSet) : set.toList.Nodup :=
  set.increasing.imp fun {first second} hlt heq => by
    subst heq
    exact String.lt_irrefl first hlt

/-- Sets with the same members are equal: their increasing lists are
permutations of each other. -/
@[ext]
theorem ext {left right : MemberSet}
    (hmem : ∀ member, member ∈ left ↔ member ∈ right) : left = right := by
  have hperm : left.toList.Perm right.toList :=
    (List.perm_ext_iff_of_nodup left.nodup_toList right.nodup_toList).2 hmem
  have hlist : left.toList = right.toList :=
    List.Perm.eq_of_pairwise
      (fun _ _ _ _ hlt hgt => absurd hgt (String.lt_asymm hlt))
      left.increasing right.increasing hperm
  cases left
  cases right
  cases hlist
  rfl

theorem isEmpty_iff {set : MemberSet} :
    set.isEmpty = true ↔ ∀ member, ¬ member ∈ set := by
  rw [isEmpty, List.isEmpty_iff, List.eq_nil_iff_forall_not_mem]
  rfl

end MemberSet

end AccessPolicy
