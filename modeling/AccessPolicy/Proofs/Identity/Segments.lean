import AccessPolicy.Identity

/-!
# Segments of names

A name is read segment by segment.  The segments of two names joined by a
slash are those of the first and then those of the second, and a name
without a slash is one segment.  This is all that has to be known to tell
where a role can begin.
-/

namespace AccessPolicy.BindingId

theorem segments_ne_nil (text : List Char) : segments text ≠ [] := by
  cases text with
  | nil => simp [segments]
  | cons c rest =>
      rw [segments]
      by_cases hslash : c = '/'
      · simp [hslash]
      · rw [if_neg hslash]
        cases segments rest <;> simp [extendFirst]

theorem extendFirst_append {parts : List (List Char)} (hparts : parts ≠ [])
    (c : Char) (others : List (List Char)) :
    extendFirst c (parts ++ others) = extendFirst c parts ++ others := by
  cases parts with
  | nil => exact absurd rfl hparts
  | cons first rest => rfl

theorem segments_append_slash (left right : List Char) :
    segments (left ++ '/' :: right) = segments left ++ segments right := by
  induction left with
  | nil => simp [segments]
  | cons c rest ih =>
      rw [List.cons_append, segments, segments, ih]
      by_cases hslash : c = '/'
      · rw [if_pos hslash, if_pos hslash]
        rfl
      · rw [if_neg hslash, if_neg hslash]
        exact extendFirst_append (segments_ne_nil rest) c _

theorem segments_of_not_mem {text : List Char} (htext : '/' ∉ text) :
    segments text = [text] := by
  induction text with
  | nil => rfl
  | cons c rest ih =>
      have hslash : c ≠ '/' := fun heq => htext (heq ▸ List.mem_cons_self)
      have hrest : '/' ∉ rest := fun hmem => htext (List.mem_cons_of_mem c hmem)
      rw [segments, if_neg hslash, ih hrest]
      rfl

/-- The first segment ends at the first slash. -/
theorem segments_eq_cons {text part : List Char} {others : List (List Char)}
    (hsegments : segments text = part :: others) :
    '/' ∉ part ∧
      (others = [] ∧ text = part ∨
        ∃ rest, segments rest = others ∧ text = part ++ '/' :: rest) := by
  by_cases htext : '/' ∈ text
  · obtain ⟨first, rest, rfl, hfirst⟩ := List.eq_append_cons_of_mem htext
    rw [segments_append_slash, segments_of_not_mem hfirst] at hsegments
    obtain ⟨rfl, hothers⟩ := List.cons.inj hsegments
    exact ⟨hfirst, .inr ⟨rest, hothers, rfl⟩⟩
  · rw [segments_of_not_mem htext] at hsegments
    obtain ⟨rfl, hothers⟩ := List.cons.inj hsegments
    exact ⟨htext, .inl ⟨hothers.symm, rfl⟩⟩

theorem segments_eq_singleton {text part : List Char}
    (hsegments : segments text = [part]) : text = part ∧ '/' ∉ part := by
  obtain ⟨hpart, ⟨-, htext⟩ | ⟨rest, hrest, -⟩⟩ := segments_eq_cons hsegments
  · exact ⟨htext, hpart⟩
  · exact absurd hrest (segments_ne_nil rest)

theorem segments_eq_pair {text first second : List Char}
    (hsegments : segments text = [first, second]) :
    text = first ++ '/' :: second ∧ '/' ∉ second := by
  obtain ⟨-, ⟨hnil, -⟩ | ⟨rest, hrest, htext⟩⟩ := segments_eq_cons hsegments
  · cases hnil
  · obtain ⟨rfl, hsecond⟩ := segments_eq_singleton hrest
    exact ⟨htext, hsecond⟩

/-- What stands in two runs of segments is cut at the slash between them. -/
theorem segments_eq_append {text : List Char} {first second : List (List Char)}
    (hsegments : segments text = first ++ second) (hfirst : first ≠ [])
    (hsecond : second ≠ []) :
    ∃ left right, text = left ++ '/' :: right ∧ segments left = first ∧
      segments right = second := by
  induction first generalizing text with
  | nil => exact absurd rfl hfirst
  | cons part others ih =>
      obtain ⟨hpart, ⟨hnil, -⟩ | ⟨rest, hrest, rfl⟩⟩ :=
        segments_eq_cons hsegments
      · exact absurd (List.append_eq_nil_iff.1 hnil).2 hsecond
      · cases others with
        | nil => exact ⟨part, rest, rfl, segments_of_not_mem hpart, hrest⟩
        | cons next others =>
            obtain ⟨left, right, rfl, hleft, hright⟩ :=
              ih hrest (List.cons_ne_nil _ _)
            refine ⟨part ++ '/' :: left, right, by simp, ?_, hright⟩
            rw [segments_append_slash, segments_of_not_mem hpart, hleft]
            rfl

/-- A text that can stand between two slashes. -/
def IsPart (part : String) : Prop :=
  part ≠ "" ∧ '/' ∉ part.toList

/-- A predefined role, `roles/<name>`. -/
def IsPredefined (role : String) : Prop :=
  ∃ name, IsPart name ∧ role = "roles" ++ "/" ++ name

/-- What a custom role stands below, `projects/<project>` or
`organizations/<organization>`. -/
def IsOwner (path : String) : Prop :=
  (∃ project, IsPart project ∧ path = "projects" ++ "/" ++ project) ∨
    ∃ organization, IsPart organization ∧
      path = "organizations" ++ "/" ++ organization

/-- A custom role, `projects/<project>/roles/<name>` or
`organizations/<organization>/roles/<name>`. -/
def IsCustom (role : String) : Prop :=
  ∃ path name, IsOwner path ∧ IsPredefined name ∧ role = path ++ "/" ++ name

theorem toList_joined (left right : String) :
    (left ++ "/" ++ right).toList = left.toList ++ '/' :: right.toList := by
  rw [String.toList_append, String.toList_append, List.append_assoc]
  rfl

theorem toList_ne_nil {text : String} : text.toList ≠ [] ↔ text ≠ "" := by
  rw [ne_eq, ne_eq, String.toList_eq_nil_iff]

/-- A marker and a part below it are two segments. -/
theorem marked_iff {marker text : String} (hmarker : '/' ∉ marker.toList) :
    (∃ part, IsPart part ∧ text = marker ++ "/" ++ part) ↔
      ∃ part, part ≠ [] ∧ segments text.toList = [marker.toList, part] := by
  constructor
  · rintro ⟨part, ⟨hpart, hslash⟩, rfl⟩
    refine ⟨part.toList, toList_ne_nil.2 hpart, ?_⟩
    rw [toList_joined, segments_append_slash, segments_of_not_mem hmarker,
      segments_of_not_mem hslash]
    rfl
  · rintro ⟨part, hpart, hsegments⟩
    obtain ⟨htext, hslash⟩ := segments_eq_pair hsegments
    refine ⟨String.ofList part, ⟨?_, ?_⟩, ?_⟩
    · rwa [← toList_ne_nil, String.toList_ofList]
    · rwa [String.toList_ofList]
    · apply String.toList_injective
      rw [htext, toList_joined, String.toList_ofList]

theorem isPredefined_iff {role : String} :
    IsPredefined role ↔
      ∃ name, name ≠ [] ∧ segments role.toList = ["roles".toList, name] :=
  marked_iff (by decide)

theorem isOwner_iff {path : String} :
    IsOwner path ↔ ∃ parent owner,
      (parent = "projects".toList ∨ parent = "organizations".toList) ∧
        owner ≠ [] ∧
        segments path.toList = [parent, owner] := by
  rw [IsOwner, marked_iff (by decide), marked_iff (by decide)]
  constructor
  · rintro (⟨owner, howner, hsegments⟩ | ⟨owner, howner, hsegments⟩)
    · exact ⟨_, owner, .inl rfl, howner, hsegments⟩
    · exact ⟨_, owner, .inr rfl, howner, hsegments⟩
  · rintro ⟨parent, owner, rfl | rfl, howner, hsegments⟩
    · exact .inl ⟨owner, howner, hsegments⟩
    · exact .inr ⟨owner, howner, hsegments⟩

theorem isCustom_iff {role : String} :
    IsCustom role ↔ ∃ parent owner name,
      (parent = "projects".toList ∨ parent = "organizations".toList) ∧
        owner ≠ [] ∧ name ≠ [] ∧
        segments role.toList = [parent, owner, "roles".toList, name] := by
  constructor
  · rintro ⟨path, predefined, hpath, hpredefined, rfl⟩
    obtain ⟨parent, owner, hparent, howner, hleft⟩ := isOwner_iff.1 hpath
    obtain ⟨name, hname, hright⟩ := isPredefined_iff.1 hpredefined
    refine ⟨parent, owner, name, hparent, howner, hname, ?_⟩
    rw [toList_joined, segments_append_slash, hleft, hright]
    rfl
  · rintro ⟨parent, owner, name, hparent, howner, hname, hsegments⟩
    have hruns : segments role.toList =
        [parent, owner] ++ ["roles".toList, name] := hsegments
    obtain ⟨left, right, htext, hleft, hright⟩ :=
      segments_eq_append hruns (List.cons_ne_nil _ _) (List.cons_ne_nil _ _)
    refine ⟨String.ofList left, String.ofList right, ?_, ?_, ?_⟩
    · refine isOwner_iff.2 ⟨parent, owner, hparent, howner, ?_⟩
      rwa [String.toList_ofList]
    · refine isPredefined_iff.2 ⟨name, hname, ?_⟩
      rwa [String.toList_ofList]
    · apply String.toList_injective
      rw [htext, toList_joined, String.toList_ofList, String.toList_ofList]

theorem IsCustom.not_isPredefined {role : String} (hcustom : IsCustom role) :
    ¬IsPredefined role := by
  intro hpredefined
  obtain ⟨parent, owner, name, -, -, -, hfour⟩ := isCustom_iff.1 hcustom
  obtain ⟨other, -, htwo⟩ := isPredefined_iff.1 hpredefined
  rw [hfour] at htwo
  cases (List.cons.inj (List.cons.inj htwo).2).2

/-- The test for roles accepts the predefined and the custom ones, and
nothing else. -/
theorem isRole_iff {role : String} :
    isRole role.toList = true ↔ IsPredefined role ∨ IsCustom role := by
  rw [isPredefined_iff, isCustom_iff, isRole]
  constructor
  · intro hrole
    split at hrole
    · next marker name hsegments =>
        simp only [Bool.and_eq_true, decide_eq_true_eq, Bool.not_eq_true',
          List.isEmpty_eq_false_iff] at hrole
        obtain ⟨rfl, hname⟩ := hrole
        exact .inl ⟨name, hname, hsegments⟩
    · next parent owner marker name hsegments =>
        simp only [Bool.and_eq_true, Bool.or_eq_true, decide_eq_true_eq,
          Bool.not_eq_true', List.isEmpty_eq_false_iff] at hrole
        obtain ⟨⟨⟨hparent, howner⟩, rfl⟩, hname⟩ := hrole
        exact .inr ⟨parent, owner, name, hparent, howner, hname, hsegments⟩
    · cases hrole
  · rintro (⟨name, hname, hsegments⟩ |
      ⟨parent, owner, name, hparent, howner, hname, hsegments⟩)
    · rw [hsegments]
      simp only [Bool.and_eq_true, decide_eq_true_eq, Bool.not_eq_true',
        List.isEmpty_eq_false_iff]
      exact ⟨trivial, hname⟩
    · rw [hsegments]
      simp only [Bool.and_eq_true, Bool.or_eq_true, decide_eq_true_eq,
        Bool.not_eq_true', List.isEmpty_eq_false_iff]
      exact ⟨⟨⟨hparent, howner⟩, trivial⟩, hname⟩

/-- A role that ends in another role is a custom one, and the other is
predefined. -/
theorem isRole_joined {path name : String} (hname : isRole name.toList = true)
    (hjoined : isRole (path ++ "/" ++ name).toList = true) :
    IsOwner path ∧ IsPredefined name := by
  have hpath : 0 < (segments path.toList).length :=
    List.length_pos_iff.2 (segments_ne_nil path.toList)
  have hsegments : segments (path ++ "/" ++ name).toList =
      segments path.toList ++ segments name.toList := by
    rw [toList_joined, segments_append_slash]
  have hlength := congrArg List.length hsegments
  rw [List.length_append] at hlength
  rw [isRole_iff, isPredefined_iff, isCustom_iff] at hname hjoined
  obtain ⟨last, -, hsplit⟩ |
      ⟨parent, owner, last, hparent, howner, hlast, hsplit⟩ := hjoined
  · -- Two segments leave none for the path.
    rw [hsplit] at hlength
    obtain ⟨_, _, hright⟩ | ⟨_, _, _, _, _, _, hright⟩ := hname
    · rw [hright] at hlength
      simp only [List.length_cons, List.length_nil] at hlength
      omega
    · rw [hright] at hlength
      simp only [List.length_cons, List.length_nil] at hlength
      omega
  · obtain ⟨lastName, hlastName, hright⟩ | ⟨_, _, _, _, _, _, hright⟩ := hname
    · rw [hsplit, hright] at hsegments
      have hboth : [parent, owner] ++ ["roles".toList, last] =
          segments path.toList ++ ["roles".toList, lastName] := hsegments
      obtain ⟨hleft, hroles⟩ := List.append_inj' hboth rfl
      exact ⟨isOwner_iff.2 ⟨parent, owner, hparent, howner, hleft.symm⟩,
        isPredefined_iff.2 ⟨lastName, hlastName, hright⟩⟩
    · rw [hsplit, hright] at hlength
      simp only [List.length_cons, List.length_nil] at hlength
      omega

end AccessPolicy.BindingId
