import AccessPolicy.Proofs.Identity.Segments

/-!
# Names and the identities they stand for

The name of a binding is its resource and its role with a slash between them,
and both may hold slashes themselves.  Reading cuts a name at the leftmost slash
that leaves a role behind it.  This gives the identity back unless the resource
ends in something that turns the role behind it into a custom role: then the
same name stands for a role on an outer resource, and that is how it is read.
-/

namespace AccessPolicy.BindingId

/-- A predefined role on a resource that lies, as a project or an organization,
inside another one.  The end of the resource and the role together look like a
custom role on the outer resource. -/
def Merges (resource role : String) : Prop :=
  IsPredefined role ∧
    ∃ outer path, outer ≠ "" ∧ IsOwner path ∧ resource = outer ++ "/" ++ path

/-- Among the cuts of a text the leftmost one that is acceptable is found. -/
theorem find?_cuts {text left right : List Char}
    {accept : List Char × List Char → Bool}
    (htext : text = left ++ '/' :: right)
    (haccept : accept (left, right) = true)
    (hfirst : ∀ before after, text = before ++ '/' :: after →
      before.length < left.length →
      accept (before, after) = false) :
    (cuts text).find? accept = some (left, right) := by
  induction left generalizing text accept with
  | nil =>
      rw [htext, List.nil_append, cuts, if_pos rfl,
        List.find?_cons_of_pos haccept]
  | cons c rest ih =>
      have hrest : (cuts (rest ++ '/' :: right)).find?
          (fun cut => accept (c :: cut.1, cut.2)) = some (rest, right) := by
        apply ih rfl haccept
        intro before after hcut hlength
        apply hfirst
        · rw [htext, List.cons_append, hcut, List.cons_append]
        · exact Nat.succ_lt_succ hlength
      rw [htext, List.cons_append, cuts]
      by_cases hslash : c = '/'
      · subst hslash
        have hempty : accept ([], rest ++ '/' :: right) = false :=
          hfirst [] _ htext (Nat.succ_pos _)
        rw [if_pos rfl, List.find?_cons_of_neg (by simp [hempty]),
          List.find?_map]
        exact congrArg (Option.map _) hrest
      · rw [if_neg hslash, List.find?_map]
        exact congrArg (Option.map _) hrest

variable {resource role : String}

/-- A cut to the left of the slash between a resource and a role leaves no role
behind it, unless the two merge. -/
theorem isRole_after_earlier_cut (hrole : isRole role.toList = true)
    (hmerges : ¬Merges resource role) {before after : List Char}
    (hbefore : before ≠ [])
    (hcut : (resource ++ "/" ++ role).toList = before ++ '/' :: after)
    (hlength : before.length < resource.toList.length) :
    isRole after = false := by
  rw [toList_joined] at hcut
  obtain ⟨more, hlonger, -⟩ | ⟨more, hresource, hafter⟩ :=
    List.append_eq_append_iff.1 hcut
  · rw [hlonger, List.length_append] at hlength
    omega
  · cases more with
    | nil =>
        rw [hresource, List.append_nil] at hlength
        exact absurd hlength (Nat.lt_irrefl _)
    | cons slash path =>
        have hslash : '/' = slash := (List.cons.inj hafter).1
        have hpath : after = (String.ofList path ++ "/" ++ role).toList := by
          rw [toList_joined, String.toList_ofList]
          exact (List.cons.inj hafter).2
        apply Bool.eq_false_iff.2
        intro hjoined
        rw [hpath] at hjoined
        obtain ⟨howner, hpredefined⟩ := isRole_joined hrole hjoined
        apply hmerges
        refine ⟨hpredefined, String.ofList before, String.ofList path,
          ?_, howner, ?_⟩
        · rwa [← toList_ne_nil, String.toList_ofList]
        · apply String.toList_injective
          rw [hresource, toList_joined, String.toList_ofList,
            String.toList_ofList, hslash]

/-- A role is not empty, because an empty text has no segment `roles`. -/
theorem isEmpty_of_isRole (hrole : isRole role.toList = true) :
    role.isEmpty = false := by
  apply Bool.eq_false_iff.2
  intro hempty
  rw [String.isEmpty_iff.1 hempty] at hrole
  cases hrole

/-- A name is read back as the identity that it was made from, unless
resource and role merge. -/
theorem parse_display (hresource : resource ≠ "")
    (hrole : isRole role.toList = true) (hmerges : ¬Merges resource role) :
    parse (display ⟨resource, role⟩) = .ok ⟨resource, role⟩ := by
  have hsplit : split? (resource ++ "/" ++ role) = some ⟨resource, role⟩ := by
    rw [split?, find?_cuts (toList_joined resource role)]
    · simp only [Option.map_some, String.ofList_toList]
    · simp [toList_ne_nil.2 hresource, hrole]
    · intro before after hcut hlength
      cases before with
      | nil => rfl
      | cons c rest =>
          exact isRole_after_earlier_cut hrole hmerges
            (List.cons_ne_nil c rest) hcut hlength
  rw [parse, display, hsplit]

theorem display_outer (outer path role : String) :
    display ⟨outer ++ "/" ++ path, role⟩ =
      display ⟨outer, path ++ "/" ++ role⟩ := by
  simp only [display, String.append_assoc]

/-- When they merge, the name is read as that of a custom role on the
outer resource. -/
theorem parse_display_merged {outer path : String} (houter : outer ≠ "")
    (hpath : IsOwner path) (hrole : IsPredefined role) :
    parse (display ⟨outer ++ "/" ++ path, role⟩) =
      .ok ⟨outer, path ++ "/" ++ role⟩ := by
  have hcustom : IsCustom (path ++ "/" ++ role) :=
    ⟨path, role, hpath, hrole, rfl⟩
  rw [display_outer]
  apply parse_display houter (isRole_iff.2 (.inr hcustom))
  intro hmerges
  exact hcustom.not_isPredefined hmerges.1

end AccessPolicy.BindingId
