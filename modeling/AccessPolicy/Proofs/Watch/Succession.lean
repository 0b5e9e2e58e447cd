import AccessPolicy.Proofs.Watch.Operation

/-!
# The versions of a policy

Every write to a resource makes a new version of its policy.  What is taken down
of an operation tells all versions that were stored while it ran, by its own
commits or by other writers around its fetches, in their order and with nothing
left out.  The policy that a fetch brought is one of them.
-/

namespace AccessPolicy

/-- From one version on, these versions were stored, each by a write to the one
before, up to the last one. -/
inductive Succession : Stored → List Stored → Stored → Prop
  | none {stored : Stored} : Succession stored [] stored
  | write {first last : Stored} {bindings : List Binding} {later : List Stored}
      (hlater : Succession (first.write bindings) later last) :
      Succession first (first.write bindings :: later) last

namespace Succession

variable {first between last : Stored} {versions later : List Stored}

theorem one (first : Stored) (bindings : List Binding) :
    Succession first [first.write bindings] (first.write bindings) :=
  .write .none

theorem trans (hfirst : Succession first versions between)
    (hsecond : Succession between later last) :
    Succession first (versions ++ later) last := by
  induction hfirst with
  | none => exact hsecond
  | write _ ih => exact .write (ih hsecond)

theorem last_mem (hversions : Succession first versions last) :
    last ∈ first :: versions := by
  induction hversions with
  | none => exact List.mem_singleton_self _
  | write _ ih => exact List.mem_cons_of_mem _ ih

/-- What comes behind a list of versions comes behind the last one of them. -/
theorem drop_append (hversions : Succession first versions last)
    (later : List Stored) :
    (first :: (versions ++ later)).drop versions.length = last :: later := by
  induction hversions with
  | none => rfl
  | write _ ih => exact ih

/-- The version counter tells how many writes there were. -/
theorem version_getElem? (hversions : Succession first versions last)
    {position : Nat} {version : Stored}
    (hversion : (first :: versions)[position]? = some version) :
    version.version = first.version + UInt64.ofNat position := by
  induction hversions generalizing position with
  | none =>
      cases position with
      | zero =>
          cases hversion
          exact (UInt64.add_zero _).symm
      | succ position => simp at hversion
  | @write first last bindings later _ ih =>
      cases position with
      | zero =>
          cases hversion
          exact (UInt64.add_zero _).symm
      | succ position =>
          rw [ih hversion, UInt64.ofNat_add, Stored.write, UInt64.add_assoc,
            UInt64.add_comm 1]
          rfl

/-- With fewer writes than the counter has values, no etag is used twice. -/
theorem nodup_etags (hversions : Succession first versions last)
    (hfew : versions.length < 2 ^ 64) :
    ((first :: versions).map (·.etag)).Nodup := by
  apply List.nodup_iff_getElem?_ne_getElem?.2
  intro older newer hless hnewer hsame
  rw [List.length_map] at hnewer
  have holder : older < (first :: versions).length := hless.trans hnewer
  have hlength : (first :: versions).length ≤ 2 ^ 64 := hfew
  rw [List.getElem?_map, List.getElem?_map, List.getElem?_eq_getElem holder,
    List.getElem?_eq_getElem hnewer] at hsame
  have hcounters : (first :: versions)[older].version =
      (first :: versions)[newer].version :=
    Stored.etagOf_injective (Option.some.inj hsame)
  rw [hversions.version_getElem? (List.getElem?_eq_getElem holder),
    hversions.version_getElem? (List.getElem?_eq_getElem hnewer),
    UInt64.add_right_inj,
    ← UInt64.toNat_inj, UInt64.toNat_ofNat', UInt64.toNat_ofNat',
    Nat.mod_eq_of_lt (holder.trans_le hlength),
    Nat.mod_eq_of_lt (hnewer.trans_le hlength)]
    at hcounters
  exact hless.ne hcounters

end Succession

namespace Interference

/-- What is stored for a resource by each write to it among some
interference. -/
def versions (own : String) (authority : Authority) :
    List Interference → List Stored
  | [] => []
  | change :: rest =>
    let next := apply own authority change
    if change.touches own then next.stored own :: versions own next rest
    else versions own next rest

/-- An interference writes a version, or leaves the policy alone. -/
theorem stored_apply_cases (own : String) (authority : Authority)
    (change : Interference) :
    (change.touches own = true ∧ ∃ bindings,
      (apply own authority change).stored own =
        (authority.stored own).write bindings) ∨
    (change.touches own = false ∧
      (apply own authority change).stored own = authority.stored own) := by
  cases change with
  | write resource edit =>
      by_cases hown : resource.getD own = own
      · refine .inl ⟨decide_eq_true hown,
          edit (authority.stored own).bindings, ?_⟩
        rw [apply, hown, Authority.change, Authority.stored_write_self]
      · refine .inr ⟨decide_eq_false hown, ?_⟩
        rw [apply, Authority.change,
          Authority.stored_write_of_ne _ _ (Ne.symm hown)]
  | failFetch | failCommit | failConnection => exact .inr ⟨rfl, rfl⟩

theorem succession_applyAll (own : String) (authority : Authority)
    (changes : List Interference) :
    Succession (authority.stored own) (versions own authority changes)
      ((applyAll own authority changes).stored own) := by
  induction changes generalizing authority with
  | nil => exact .none
  | cons change rest ih =>
      have hrest := ih (apply own authority change)
      rw [versions, applyAll_cons]
      obtain ⟨htouches, bindings, hstored⟩ | ⟨htouches, hstored⟩ :=
        stored_apply_cases own authority change
      · rw [hstored] at hrest
        simp only [htouches, if_true, hstored]
        exact .write hrest
      · rw [hstored] at hrest
        simp only [htouches, Bool.false_eq_true, if_false]
        exact hrest

end Interference

def Exchange.versions (own : String) : Exchange Arena → List Stored
  | .fetch before _ _ =>
    Interference.versions own before.authority (before.races.headD {}).before ++
      Interference.versions own (before.reached own).fetched
        (before.races.headD {}).after
  | .commit _ _ (.ok ()) after => [after.authority.stored own]
  | .commit _ _ (.error _) _ => []

namespace Arena

variable {own : String} {before after : Arena} {policy sent : Policy}

/-- The two ways in which a fetch through a connection ends. -/
theorem fetches_cases {answer : Except RemoteError Policy}
    (hfetch : (connection own).Fetches before answer after) :
    after = before.served own ∧
      ((∃ cause, answer = .error cause) ∨
        answer = .ok (before.offered own)) := by
  obtain ⟨log, later, hfetch⟩ := hfetch
  simp only [connection] at hfetch
  obtain ⟨cause, -, hended⟩ | ⟨-, hended⟩ := fetch_cases own before
  · rw [hended] at hfetch
    cases hfetch
    exact ⟨rfl, .inl ⟨cause, rfl⟩⟩
  · rw [hended] at hfetch
    cases hfetch
    exact ⟨rfl, .inr rfl⟩

/-- The two ways in which a commit through a connection ends. -/
theorem commits_cases {answer : Except RemoteError Unit}
    (hcommit : (connection own).Commits before sent answer after) :
    (∃ cause, answer = .error cause ∧
      after = ⟨before.authority.committed, before.races⟩) ∨
      (answer = .ok () ∧
        after = ⟨before.authority.committed.write own sent.bindings,
          before.races⟩) := by
  obtain ⟨log, later, hcommit⟩ := hcommit
  obtain ⟨cause, hended⟩ | ⟨-, hended⟩ := commit_cases own sent ⟨before, log⟩
  · rw [hended] at hcommit
    cases hcommit
    exact .inl ⟨cause, rfl, rfl⟩
  · rw [hended] at hcommit
    cases hcommit
    exact .inr ⟨rfl, rfl⟩

/-- A fetch is surrounded by the versions that the others write. -/
theorem succession_fetch {answer : Except RemoteError Policy}
    (hfetch : (connection own).Fetches before answer after) :
    Succession (before.authority.stored own)
      (Exchange.fetch before answer after |>.versions own)
      (after.authority.stored own) := by
  obtain ⟨rfl, -⟩ := fetches_cases hfetch
  have hearly := Interference.succession_applyAll own before.authority
    (before.races.headD {}).before
  exact hearly.trans
    (Interference.succession_applyAll own (before.reached own).fetched _)

/-- What a fetch brought is one of the versions around it, or was stored
before. -/
theorem fetched_mem_versions
    (hfetch : (connection own).Fetches before (.ok policy) after) :
    ∃ version ∈ before.authority.stored own ::
        (Exchange.fetch before (.ok policy) after).versions own,
        policy = version.policy := by
  obtain ⟨-, ⟨cause, hfailed⟩ | hoffered⟩ := fetches_cases hfetch
  · cases hfailed
  · obtain rfl := Except.ok.inj hoffered
    refine ⟨(before.reached own).stored own, ?_, rfl⟩
    rw [Exchange.versions, ← List.cons_append]
    exact List.mem_append_left _
      (Interference.succession_applyAll own before.authority
        (before.races.headD {}).before).last_mem

/-- An accepted commit writes a version, a refused one does not. -/
theorem succession_commit {answer : Except RemoteError Unit}
    (hcommit : (connection own).Commits before sent answer after) :
    Succession (before.authority.stored own)
      ((Exchange.commit before sent answer after).versions own)
      (after.authority.stored own) := by
  obtain ⟨cause, rfl, rfl⟩ | ⟨rfl, rfl⟩ := commits_cases hcommit
  · exact .none
  · have hstored :
        (before.authority.committed.write own sent.bindings).stored own =
          (before.authority.stored own).write sent.bindings :=
        Authority.stored_write_self _ _ _
    show Succession _ [_] _
    rw [hstored]
    exact .one _ _

end Arena

/-! ## Exchanges in a row -/

section

variable {ρ : Type}

/-- A connection made this exchange, from one memory to the next. -/
inductive Connection.Made (connection : Connection ρ) :
    ρ → Exchange ρ → ρ → Prop
  | fetch {before after : ρ} {answer : Except RemoteError Policy}
      (hfetch : connection.Fetches before answer after) :
      Connection.Made connection before (.fetch before answer after) after
  | commit {before after : ρ} {sent : Policy} {answer : Except RemoteError Unit}
      (hcommit : connection.Commits before sent answer after) :
      Connection.Made connection before (.commit before sent answer after) after

inductive Connection.Chain (connection : Connection ρ) :
    ρ → List (Exchange ρ) → ρ → Prop
  | nil {memory : ρ} : Connection.Chain connection memory [] memory
  | cons {before between after : ρ} {exchange : Exchange ρ}
      {later : List (Exchange ρ)}
      (hmade : connection.Made before exchange between)
      (hlater : Connection.Chain connection between later after) :
      Connection.Chain connection before (exchange :: later) after

theorem Connection.Chain.append {connection : Connection ρ}
    {before between after : ρ} {first second : List (Exchange ρ)}
    (hfirst : connection.Chain before first between)
    (hsecond : connection.Chain between second after) :
    connection.Chain before (first ++ second) after := by
  induction hfirst with
  | nil => exact hsecond
  | cons hmade _ ih => exact .cons hmade (ih hsecond)

/-- What the last of some exchanges says about a role, if it is a fetch
that was answered. -/
def shown (role : String) (exchanges : List (Exchange ρ)) :
    Option (Binding × Etag) :=
  match exchanges.getLast? with
  | some (.fetch _ (.ok policy) _) => policy.found role
  | _ => none

theorem shown_cons_cons (role : String) (first second : Exchange ρ)
    (rest : List (Exchange ρ)) :
    shown role (first :: second :: rest) = shown role (second :: rest) := rfl

end

namespace Arena

variable {own : String} {before after : Arena} {exchange : Exchange Arena}
variable {exchanges : List (Exchange Arena)}

theorem succession_made (hmade : (connection own).Made before exchange after) :
    Succession (before.authority.stored own) (exchange.versions own)
      (after.authority.stored own) := by
  cases hmade with
  | fetch hfetch => exact succession_fetch hfetch
  | commit hcommit => exact succession_commit hcommit

/-- Exchanges in a row tell all versions from the first memory to the last. -/
theorem succession_chain
    (hchain : (connection own).Chain before exchanges after) :
    Succession (before.authority.stored own)
      (exchanges.flatMap (·.versions own)) (after.authority.stored own) := by
  induction hchain with
  | nil => exact .none
  | cons hmade _ ih => exact (succession_made hmade).trans ih

/-- What the last exchange shows of a role stands in one of the versions
that were told. -/
theorem shown_mem_versions
    (hchain : (connection own).Chain before exchanges after) {role : String}
    {found : Binding × Etag} (hshown : shown role exchanges = some found) :
    ∃ version ∈ before.authority.stored own ::
        exchanges.flatMap (·.versions own),
      version.policy.found role = some found := by
  induction hchain with
  | nil => cases hshown
  | @cons before between after exchange later hmade hlater ih =>
      cases later with
      | nil =>
          rw [List.flatMap_singleton]
          cases hmade with
          | commit => cases hshown
          | @fetch _ answer hfetch =>
              cases answer with
              | error cause => cases hshown
              | ok policy =>
                  obtain ⟨version, hversion, rfl⟩ := fetched_mem_versions hfetch
                  exact ⟨version, hversion, hshown⟩
      | cons next rest =>
          rw [shown_cons_cons] at hshown
          obtain ⟨version, hversion, hfound⟩ := ih hshown
          refine ⟨version, ?_, hfound⟩
          rw [List.flatMap_cons, ← List.cons_append]
          obtain rfl | hrest := List.mem_cons.1 hversion
          · exact List.mem_append_left _ (succession_made hmade).last_mem
          · exact List.mem_append_right _ hrest

end Arena

end AccessPolicy
