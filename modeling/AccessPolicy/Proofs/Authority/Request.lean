import AccessPolicy.Proofs.Authority.Version

/-!
# Requests to an authority

A fetch counts itself and uses up an armed failure; what is stored stays.  A
commit does the same, and is accepted only if no failure was armed and its etag
is the current one.  These are the only ways in which the two requests end.
-/

namespace AccessPolicy.Authority

def fetched (authority : Authority) : Authority :=
  { authority with fetches := authority.fetches + 1, fetchFailure := none }

/-- The authority after a commit, but for the write that the commit may
have been. -/
def committed (authority : Authority) : Authority :=
  { authority with commits := authority.commits + 1, commitFailure := none }

/-- The two ways in which a fetch ends. -/
theorem fetch_cases (authority : Authority) (resource : String) :
    (∃ failure, authority.fetchFailure = some failure ∧
      authority.fetch resource = (.error failure, authority.fetched)) ∨
    (authority.fetchFailure = none ∧
      authority.fetch resource =
        (.ok (authority.policy resource), authority.fetched)) := by
  rw [fetch]
  cases hfailure : authority.fetchFailure with
  | some failure => exact .inl ⟨failure, rfl, rfl⟩
  | none => exact .inr ⟨rfl, rfl⟩

/-- The two ways in which a commit ends. -/
theorem commit_cases (authority : Authority) (resource : String)
    (policy : Policy) :
    (∃ failure, authority.commit resource policy =
      (.error failure, authority.committed)) ∨
    (authority.commitFailure = none ∧
      policy.etag = (authority.stored resource).etag ∧
      authority.commit resource policy =
        (.ok (), authority.committed.write resource policy.bindings)) := by
  rw [commit]
  cases hfailure : authority.commitFailure with
  | some failure => exact .inl ⟨failure, rfl⟩
  | none =>
      by_cases hetag : policy.etag = (authority.policy resource).etag
      · exact .inr ⟨rfl, hetag, if_pos hetag⟩
      · exact .inl ⟨staleEtag policy.etag (authority.policy resource).etag,
          if_neg hetag⟩

/-- With no failure armed, a commit under the current etag is accepted. -/
theorem commit_current {authority : Authority} {resource : String}
    {policy : Policy} (hfailure : authority.commitFailure = none)
    (hetag : policy.etag = (authority.stored resource).etag) :
    authority.commit resource policy =
      (.ok (), authority.committed.write resource policy.bindings) := by
  rw [commit]
  rw [hfailure]
  exact if_pos hetag

/-- What a write leaves stored depends on what was stored, and on nothing
else. -/
theorem stored_write_congr {first second : Authority}
    (hstored : first.stored = second.stored) (resource : String)
    (bindings : List Binding) :
    (first.write resource bindings).stored =
      (second.write resource bindings).stored := by
  simp only [write, hstored]

theorem stored_change_congr {first second : Authority}
    (hstored : first.stored = second.stored) (resource : String)
    (edit : List Binding → List Binding) :
    (first.change resource edit).stored =
      (second.change resource edit).stored := by
  rw [change, change, hstored]
  exact stored_write_congr hstored resource _

end AccessPolicy.Authority
