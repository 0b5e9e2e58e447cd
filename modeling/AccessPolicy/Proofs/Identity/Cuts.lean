import AccessPolicy.Proofs.Identity.Display
import Mathlib.Data.Set.Card

/-!
# What a name can be read as

A name can be cut into a resource and a role in at most two ways.  If
there are two, then one role is predefined, the other is custom, and the
resource of the custom one is an outer resource of the other.  Reading
takes the cut with the shortest resource, so it takes the custom role.
This says which names can be read at all, and which identities are read
back from the names that they display.
-/

namespace AccessPolicy.BindingId

/-- An identity that has a resource, and a role of one of the three shapes. -/
structure WellFormed (id : BindingId) : Prop where
  resource : id.resource ≠ ""
  role : IsPredefined id.role ∨ IsCustom id.role

/-- A way to cut a name into a resource and a role. -/
structure IsCut (name : String) (id : BindingId) : Prop where
  wellFormed : id.WellFormed
  text : name = id.resource ++ "/" ++ id.role

/-- Two ways to cut one name.  The end of the inner resource belongs to
the outer role. -/
structure Absorbs (outer inner : BindingId) (path : String) : Prop where
  nonempty : outer.resource ≠ ""
  owner : IsOwner path
  predefined : IsPredefined inner.role
  resource : inner.resource = outer.resource ++ "/" ++ path
  role : outer.role = path ++ "/" ++ inner.role

variable {name path : String} {id outer inner : BindingId}

theorem merges_iff_absorbs :
    Merges id.resource id.role ↔ ∃ outer path, Absorbs outer id path := by
  constructor
  · rintro ⟨hrole, resource, path, hresource, hpath, htext⟩
    exact ⟨⟨resource, path ++ "/" ++ id.role⟩, path, hresource, hpath,
      hrole, htext, rfl⟩
  · rintro ⟨outer, path, habsorbs⟩
    exact ⟨habsorbs.predefined, outer.resource, path, habsorbs.nonempty,
      habsorbs.owner, habsorbs.resource⟩

namespace Absorbs

theorem custom (habsorbs : Absorbs outer inner path) : IsCustom outer.role :=
  ⟨path, inner.role, habsorbs.owner, habsorbs.predefined, habsorbs.role⟩

theorem display_eq (habsorbs : Absorbs outer inner path) :
    outer.display = inner.display := by
  simp only [display, habsorbs.resource, habsorbs.role, String.append_assoc]

theorem wellFormed_outer (habsorbs : Absorbs outer inner path) :
    outer.WellFormed :=
  ⟨habsorbs.nonempty, .inr habsorbs.custom⟩

theorem length_lt (habsorbs : Absorbs outer inner path) :
    outer.resource.length < inner.resource.length := by
  rw [habsorbs.resource, ← String.length_toList, ← String.length_toList,
    toList_joined, List.length_append, List.length_cons]
  omega

theorem ne (habsorbs : Absorbs outer inner path) : outer ≠ inner := by
  rintro rfl
  exact absurd habsorbs.length_lt (Nat.lt_irrefl _)

theorem wellFormed_inner (habsorbs : Absorbs outer inner path) :
    inner.WellFormed where
  resource := by
    intro hempty
    have hlength := habsorbs.length_lt
    rw [hempty] at hlength
    exact absurd hlength (Nat.not_lt_zero _)
  role := .inl habsorbs.predefined

theorem parse_display (habsorbs : Absorbs outer inner path) :
    parse inner.display = .ok outer := by
  have hread :=
    parse_display_merged habsorbs.nonempty habsorbs.owner habsorbs.predefined
  rwa [← habsorbs.resource, ← habsorbs.role] at hread

end Absorbs

@[ext]
theorem ext {id other : BindingId} (hresource : id.resource = other.resource)
    (hrole : id.role = other.role) : id = other := by
  cases id
  cases other
  cases hresource
  cases hrole
  rfl

/-- Where the path of a custom role ends is determined, because it is
two segments long. -/
theorem owner_unique {first second left right : String} (hfirst : IsOwner first)
    (hsecond : IsOwner second)
    (hrole : first ++ "/" ++ left = second ++ "/" ++ right) :
    first = second ∧ left = right := by
  obtain ⟨parent, owner, -, -, hleft⟩ := isOwner_iff.1 hfirst
  obtain ⟨parent', owner', -, -, hright⟩ := isOwner_iff.1 hsecond
  have htext := congrArg String.toList hrole
  rw [toList_joined, toList_joined] at htext
  have hsegments := congrArg segments htext
  rw [segments_append_slash, segments_append_slash] at hsegments
  have hlength : (segments first.toList).length =
      (segments second.toList).length := by
    rw [hleft, hright]
    rfl
  have hpair := (List.append_inj hsegments hlength).1
  have hpaths : first.toList = second.toList := by
    rw [(segments_eq_pair hleft).1,
      (segments_eq_pair (hpair.symm.trans hleft)).1]
  rw [hpaths] at htext
  exact ⟨String.toList_injective hpaths,
    String.toList_injective (List.cons.inj (List.append_cancel_left htext)).2⟩

/-- An outer identity absorbs only one inner identity. -/
theorem Absorbs.inner_unique {other : BindingId} {way : String}
    (habsorbs : Absorbs outer inner path) (hother : Absorbs outer other way) :
    inner = other := by
  obtain ⟨hway, hrole⟩ := owner_unique habsorbs.owner hother.owner
    (habsorbs.role.symm.trans hother.role)
  have hresource : inner.resource = other.resource := by
    rw [habsorbs.resource, hother.resource, hway]
  exact BindingId.ext hresource hrole

/-! ## Reading -/

theorem of_mem_cuts {text left right : List Char}
    (hcut : (left, right) ∈ cuts text) : text = left ++ '/' :: right := by
  induction text generalizing left with
  | nil => cases hcut
  | cons c rest ih =>
      have hlater : (left, right) ∈
          (cuts rest).map (fun cut => (c :: cut.1, cut.2)) →
          c :: rest = left ++ '/' :: right := by
        intro hmem
        obtain ⟨⟨before, after⟩, hearlier, heq⟩ := List.mem_map.1 hmem
        cases heq
        rw [ih hearlier, List.cons_append]
      rw [cuts] at hcut
      by_cases hslash : c = '/'
      · rw [if_pos hslash] at hcut
        obtain heq | hmem := List.mem_cons.1 hcut
        · cases heq
          rw [hslash, List.nil_append]
        · exact hlater hmem
      · rw [if_neg hslash] at hcut
        exact hlater hcut

/-- What is read is a resource and a role with a slash between them. -/
theorem IsCut.of_parse (hparse : parse name = .ok id) : IsCut name id := by
  rw [parse] at hparse
  split at hparse
  · next found hsplit =>
      cases hparse
      obtain ⟨⟨left, right⟩, hfind, rfl⟩ := Option.map_eq_some_iff.1 hsplit
      have htext := of_mem_cuts (List.mem_of_find?_eq_some hfind)
      have haccept := List.find?_some hfind
      simp only [Bool.and_eq_true, Bool.not_eq_true',
        List.isEmpty_eq_false_iff] at haccept
      obtain ⟨hleft, hright⟩ := haccept
      refine ⟨⟨?_, ?_⟩, ?_⟩
      · rwa [← toList_ne_nil, String.toList_ofList]
      · rwa [← isRole_iff, String.toList_ofList]
      · apply String.toList_injective
        rw [htext, toList_joined, String.toList_ofList, String.toList_ofList]
  · cases hparse

/-- A name that can be cut is read as it is cut, or as an outer identity
that absorbs the cut. -/
theorem IsCut.parse_cases (hcut : IsCut name id) :
    parse name = .ok id ∨ ∃ outer path,
      Absorbs outer id path ∧ parse name = .ok outer := by
  have hname : name = id.display := hcut.text
  by_cases hmerges : Merges id.resource id.role
  · obtain ⟨outer, path, habsorbs⟩ := merges_iff_absorbs.1 hmerges
    exact .inr ⟨outer, path, habsorbs, hname ▸ habsorbs.parse_display⟩
  · have hrole := isRole_iff.2 hcut.wellFormed.role
    exact .inl
      (hname ▸ BindingId.parse_display hcut.wellFormed.resource hrole hmerges)

/-- Next to the identity that is read, a name can be cut only as one that this
identity absorbs. -/
theorem IsCut.eq_or_absorbed {found : BindingId}
    (hparse : parse name = .ok found) (hcut : IsCut name id) :
    id = found ∨ ∃ path, Absorbs found id path := by
  obtain hid | ⟨outer, path, habsorbs, houter⟩ := hcut.parse_cases
  · rw [hparse] at hid
    cases hid
    exact .inl rfl
  · rw [hparse] at houter
    cases houter
    exact .inr ⟨path, habsorbs⟩

theorem exists_parse_iff :
    (∃ id, parse name = .ok id) ↔ ∃ id, IsCut name id := by
  constructor
  · rintro ⟨id, hparse⟩
    exact ⟨id, .of_parse hparse⟩
  · rintro ⟨id, hcut⟩
    obtain hid | ⟨outer, -, -, houter⟩ := hcut.parse_cases
    · exact ⟨id, hid⟩
    · exact ⟨outer, houter⟩

/-- A name is read as the cut with the shortest resource. -/
theorem parse_eq_ok_iff_shortest :
    parse name = .ok id ↔
      IsCut name id ∧
        ∀ other, IsCut name other →
          id.resource.length ≤ other.resource.length := by
  constructor
  · intro hparse
    refine ⟨.of_parse hparse, ?_⟩
    intro other hother
    obtain rfl | ⟨path, habsorbs⟩ := hother.eq_or_absorbed hparse
    · exact Nat.le_refl _
    · exact Nat.le_of_lt habsorbs.length_lt
  · rintro ⟨hcut, hshortest⟩
    obtain hid | ⟨outer, path, habsorbs, houter⟩ := hcut.parse_cases
    · exact hid
    · exact absurd habsorbs.length_lt
        (Nat.not_lt.2 (hshortest outer (.of_parse houter)))

/-- Of two cuts of one name, the custom role is read and the other one
is predefined. -/
theorem IsCut.parse_eq_custom {other : BindingId} (hcut : IsCut name id)
    (hother : IsCut name other) (hne : id ≠ other) :
    IsCustom id.role ∧ IsPredefined other.role ∧ parse name = .ok id ∨
      IsPredefined id.role ∧ IsCustom other.role ∧ parse name = .ok other := by
  obtain hid | ⟨outer, path, habsorbs, houter⟩ := hcut.parse_cases
  · obtain heq | ⟨path, habsorbs⟩ := hother.eq_or_absorbed hid
    · exact absurd heq.symm hne
    · exact .inl ⟨habsorbs.custom, habsorbs.predefined, hid⟩
  · obtain rfl | ⟨way, hsecond⟩ := hother.eq_or_absorbed houter
    · exact .inr ⟨habsorbs.predefined, habsorbs.custom, houter⟩
    · exact absurd (habsorbs.inner_unique hsecond) hne

/-- There are at most two ways to cut a name: what is read, and what
this absorbs. -/
theorem encard_isCut_le_two (name : String) :
    {id | IsCut name id}.encard ≤ 2 := by
  by_cases hsome : ∃ id, IsCut name id
  · obtain ⟨found, hparse⟩ := exists_parse_iff.2 hsome
    -- All cuts but the one that is read are absorbed by it, and it
    -- absorbs only one.
    have hcover : {id | IsCut name id} ⊆
        insert found {id | ∃ path, Absorbs found id path} :=
      fun id hcut => IsCut.eq_or_absorbed hparse hcut
    have hone : {id | ∃ path, Absorbs found id path}.encard ≤ 1 := by
      rw [Set.encard_le_one_iff]
      rintro first second ⟨path, hfirst⟩ ⟨way, hsecond⟩
      exact hfirst.inner_unique hsecond
    calc {id | IsCut name id}.encard
        ≤ (insert found {id | ∃ path, Absorbs found id path}).encard :=
          Set.encard_le_encard hcover
      _ ≤ {id | ∃ path, Absorbs found id path}.encard + 1 :=
        Set.encard_insert_le _ found
      _ ≤ 1 + 1 := by gcongr
      _ = 2 := one_add_one_eq_two
  · have hempty : {id | IsCut name id} = ∅ := by
      apply Set.eq_empty_of_forall_notMem
      intro id hcut
      exact hsome ⟨id, hcut⟩
    rw [hempty, Set.encard_empty]
    exact bot_le

theorem parse_eq_error_iff :
    parse name = .error (.invalidBinding (.unsplittable name)) ↔
      ¬∃ id, IsCut name id := by
  rw [← exists_parse_iff, parse]
  cases split? name with
  | none => simp
  | some id => simp

/-- The names that are read are those that can be cut into a resource and a
role, and they are read as the cut with the shortest resource.  There are at
most two cuts.  If there are two, one role is predefined, the other is custom,
and the custom one is read. -/
theorem parse_eq_shortest_cut (name : String) :
    ((∃ id, parse name = .ok id) ↔ ∃ id, IsCut name id) ∧
    (∀ id, parse name = .ok id ↔
      IsCut name id ∧
        ∀ other, IsCut name other →
          id.resource.length ≤ other.resource.length) ∧
    (∀ id, parse name = .ok id → id.display = name) ∧
    {id | IsCut name id}.encard ≤ 2 ∧
    (∀ first second, IsCut name first → IsCut name second → first ≠ second →
      IsCustom first.role ∧ IsPredefined second.role ∧ parse name = .ok first ∨
        IsPredefined first.role ∧ IsCustom second.role ∧
          parse name = .ok second) ∧
    (parse name = .error (.invalidBinding (.unsplittable name)) ↔
      ¬∃ id, IsCut name id) := by
  refine ⟨exists_parse_iff, fun id => parse_eq_ok_iff_shortest, ?displayed,
    encard_isCut_le_two name, ?two, parse_eq_error_iff⟩
  case displayed =>
    intro id hparse
    exact (IsCut.of_parse hparse).text.symm
  case two =>
    intro first second hfirst hsecond hne
    exact hfirst.parse_eq_custom hsecond hne

def nestedProject : BindingId :=
  ⟨"folders/1/projects/p", "roles/viewer"⟩

def projectRole : BindingId :=
  ⟨"folders/1", "projects/p/roles/viewer"⟩

theorem isPredefined_viewer : IsPredefined "roles/viewer" :=
  ⟨"viewer", ⟨by decide, by decide⟩, rfl⟩

theorem isOwner_project : IsOwner "projects/p" :=
  .inl ⟨"p", ⟨by decide, by decide⟩, rfl⟩

theorem parse_eq_shortest_cut_nested :
    IsCut "folders/1/projects/p/roles/viewer" nestedProject ∧
      parse "folders/1/projects/p/roles/viewer" = .ok projectRole := by
  have hcustom : IsCustom projectRole.role :=
    ⟨"projects/p", "roles/viewer", isOwner_project, isPredefined_viewer, rfl⟩
  have hnested : IsCut "folders/1/projects/p/roles/viewer" nestedProject :=
    ⟨⟨by decide, .inl isPredefined_viewer⟩, rfl⟩
  have hproject : IsCut "folders/1/projects/p/roles/viewer" projectRole :=
    ⟨⟨by decide, .inr hcustom⟩, rfl⟩
  obtain ⟨-, -, -, -, htwo, -⟩ :=
    parse_eq_shortest_cut "folders/1/projects/p/roles/viewer"
  obtain ⟨-, -, hparse⟩ | ⟨hpredefined, -, -⟩ :=
    htwo projectRole nestedProject hproject hnested (by decide)
  · exact ⟨hnested, hparse⟩
  · exact absurd hpredefined hcustom.not_isPredefined

/-- An identity is read back from the name that it displays exactly if it is
well-formed and its resource and role do not merge.  If they merge, the name is
that of another well-formed identity, a custom role on the outer resource, and
it is read as this one. -/
theorem parse_display_iff (id : BindingId) :
    (parse id.display = .ok id ↔ id.WellFormed ∧ ¬Merges id.resource id.role) ∧
    ∀ outer path, outer ≠ "" → IsOwner path → IsPredefined id.role →
      id.resource = outer ++ "/" ++ path →
      let other : BindingId := ⟨outer, path ++ "/" ++ id.role⟩
      parse id.display = .ok other ∧ other ≠ id ∧ id.WellFormed ∧
        other.WellFormed ∧
        other.display = id.display := by
  constructor
  · constructor
    · intro hparse
      refine ⟨(IsCut.of_parse hparse).wellFormed, ?_⟩
      intro hmerges
      obtain ⟨outer, path, habsorbs⟩ := merges_iff_absorbs.1 hmerges
      have hboth := hparse.symm.trans habsorbs.parse_display
      cases hboth
      exact habsorbs.ne rfl
    · rintro ⟨hwellFormed, hmerges⟩
      exact parse_display hwellFormed.resource
        (isRole_iff.2 hwellFormed.role) hmerges
  · intro outer path houter hpath hrole hresource other
    have habsorbs : Absorbs other id path :=
      ⟨houter, hpath, hrole, hresource, rfl⟩
    exact ⟨habsorbs.parse_display, habsorbs.ne, habsorbs.wellFormed_inner,
      habsorbs.wellFormed_outer, habsorbs.display_eq⟩

theorem parse_display_iff_nested :
    parse nestedProject.display = .ok projectRole ∧
      projectRole.display = nestedProject.display := by
  obtain ⟨-, hmerged⟩ := parse_display_iff nestedProject
  obtain ⟨hparse, -, -, -, hdisplay⟩ :=
    hmerged "folders/1" "projects/p"
      (by decide) isOwner_project isPredefined_viewer rfl
  exact ⟨hparse, hdisplay⟩

end AccessPolicy.BindingId
