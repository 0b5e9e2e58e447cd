import AccessPolicy.Proofs.Document.Parts
import AccessPolicy.Proofs.Settings.Backoff
import AccessPolicy.Proofs.Toml.Table
import AccessPolicy.Settings.Load

/-!
# Settings of which only some are named

A TOML text may name any of the settings and leave out the others, which keep
their defaults.  The numbers of the backoff schedule may be named in any order.
Such a text is always read; whether it is accepted depends on the settings that
come out, be they named or not.
-/

namespace AccessPolicy

open Document (valuesOf RecordPart)

/-- A delay that can be named in a TOML text, whose numbers are signed words. -/
abbrev NamedDelay := {delay : UInt64 // delay.toNat < 2 ^ 63}

/-- Those settings that are named. -/
structure Overrides where
  logPolicyContents : Option Bool := none
  maxAttempts : Option UInt32 := none
  initialDelayMs : Option NamedDelay := none
  maxDelayMs : Option NamedDelay := none

inductive BackoffNumber where
  | maxAttempts (attempts : UInt32)
  | initialDelayMs (delay : NamedDelay)
  | maxDelayMs (delay : NamedDelay)

namespace BackoffNumber

def key : BackoffNumber → String
  | maxAttempts _ => "max_attempts"
  | initialDelayMs _ => "initial_delay_ms"
  | maxDelayMs _ => "max_delay_ms"

def value : BackoffNumber → Nat
  | maxAttempts attempts => attempts.toNat
  | initialDelayMs delay | maxDelayMs delay => delay.1.toNat

def line (named : BackoffNumber) : String :=
  Toml.pairLine named.key (toString named.value)

theorem bareKey_key : ∀ named : BackoffNumber, Toml.BareKey named.key
  | maxAttempts _ => (by decide : Toml.BareKey "max_attempts")
  | initialDelayMs _ => (by decide : Toml.BareKey "initial_delay_ms")
  | maxDelayMs _ => (by decide : Toml.BareKey "max_delay_ms")

theorem value_lt (named : BackoffNumber) : named.value < 2 ^ 63 := by
  cases named with
  | maxAttempts attempts => exact attempts.toNat_lt.trans (by decide)
  | initialDelayMs delay | maxDelayMs delay => exact delay.2

def pair (named : BackoffNumber) : Toml.Pair where
  name := named.key
  value := .integer named.value
  spelling := toString named.value
  bare := named.bareKey_key
  spells := Toml.spellsValue_nat named.value_lt

end BackoffNumber

namespace Overrides

variable (overrides : Overrides)

/-- The backoff schedule with the named numbers, and defaults in place
of the others. -/
def backoff : Backoff :=
  let default : Backoff := {}
  { maxAttempts := overrides.maxAttempts.getD default.maxAttempts
    initialDelayMs :=
  (overrides.initialDelayMs.map Subtype.val).getD default.initialDelayMs
    maxDelayMs :=
  (overrides.maxDelayMs.map Subtype.val).getD default.maxDelayMs }

def settings : Settings :=
  let default : Settings := {}
  { backoff := overrides.backoff
    logPolicyContents :=
  overrides.logPolicyContents.getD default.logPolicyContents }

def numbers : List BackoffNumber :=
  (overrides.maxAttempts.map .maxAttempts).toList ++
    (overrides.initialDelayMs.map .initialDelayMs).toList ++
    (overrides.maxDelayMs.map .maxDelayMs).toList

/-- The lines that name the settings, with the numbers in this order. -/
def lines (order : List BackoffNumber) : List String :=
  (overrides.logPolicyContents.map fun value =>
      Toml.pairLine "log_policy_contents" (toString value)).toList ++
    if order = [] then []
    else Toml.headerLine "conflict_retry" :: order.map BackoffNumber.line

section

variable {overrides} {order : List BackoffNumber}

theorem nodup_key_numbers :
    (overrides.numbers.map BackoffNumber.key).Nodup := by
  obtain ⟨_, _ | _, _ | _, _ | _⟩ :=
    overrides <;> simp [numbers, BackoffNumber.key]

def logPair (value : Bool) : Toml.Pair where
  name := "log_policy_contents"
  value := .boolean value
  spelling := toString value
  bare := by decide
  spells := Toml.spellsValue_boolean value

def backoffBlock (horder : order.Perm overrides.numbers) : Toml.Block where
  name := "conflict_retry"
  pairs := order.map BackoffNumber.pair
  bare := by decide
  nodup := by
    rw [List.map_map]
    exact (horder.map BackoffNumber.key).nodup_iff.2 nodup_key_numbers

def document (horder : order.Perm overrides.numbers) : Toml.Flat where
  pairs := (overrides.logPolicyContents.map logPair).toList
  blocks := if order = [] then [] else [backoffBlock horder]
  nodup := by
    cases overrides.logPolicyContents <;> split <;> simp [logPair, backoffBlock]

theorem lines_document (horder : order.Perm overrides.numbers) :
    (document horder).lines = overrides.lines order := by
  show (overrides.logPolicyContents.map logPair).toList.map Toml.Pair.line ++
    (if order = [] then []
      else [backoffBlock horder]).flatMap Toml.Block.lines = _
  rw [lines]
  congr 1
  · cases overrides.logPolicyContents <;> rfl
  · split
    · rfl
    · rw [List.flatMap_singleton, Toml.Block.lines, backoffBlock, List.map_map]
      rfl

def numberFields (order : List BackoffNumber) : List (String × Document) :=
  order.map fun named => named.pair.field

theorem inTable_numbers :
    ∀ part ∈ Backoff.parts .toml,
      part.InTable (numberFields overrides.numbers) overrides.backoff := by
  have hattempts : valuesOf "max_attempts" (numberFields overrides.numbers) =
      (overrides.maxAttempts.map fun attempts =>
        .integer attempts.toNat).toList := by
    obtain ⟨_, _ | _, _ | _, _ | _⟩ := overrides <;> rfl
  have hinitial : valuesOf "initial_delay_ms" (numberFields overrides.numbers) =
      ((overrides.initialDelayMs.map (·.1)).map fun delay =>
        .integer delay.toNat).toList := by
    obtain ⟨_, _ | _, _ | _, _ | _⟩ := overrides <;> rfl
  have hcap : valuesOf "max_delay_ms" (numberFields overrides.numbers) =
      ((overrides.maxDelayMs.map (·.1)).map fun delay =>
        .integer delay.toNat).toList := by
    obtain ⟨_, _ | _, _ | _, _ | _⟩ := overrides <;> rfl
  rw [Backoff.parts, List.forall_mem_cons, List.forall_mem_cons,
    List.forall_mem_singleton]
  exact ⟨Document.Record.ofFields?_defaulted hattempts Document.uint32?_ofNat,
    Document.Record.ofFields?_defaulted hinitial Document.uint64?_ofNat,
    Document.Record.ofFields?_defaulted hcap Document.uint64?_ofNat⟩

theorem ofDocument?_numbers (horder : order.Perm overrides.numbers) :
    Codec.ofDocument? .toml (.table (numberFields order)) =
      some overrides.backoff := by
  refine (Backoff.readByParts.table _ _ _).2 fun part hpart => ?_
  exact (inTable_numbers part hpart).perm (horder.map _)

theorem backoff_of_numbers_eq_nil (hnone : overrides.numbers = []) :
    overrides.backoff = {} := by
  obtain ⟨_, _ | _, _ | _, _ | _⟩ := overrides
  case none.none.none => rfl
  all_goals cases hnone

theorem fields_document (horder : order.Perm overrides.numbers) :
    (document horder).fields =
      (overrides.logPolicyContents.map fun value =>
          ("log_policy_contents", .boolean value)).toList ++
        if order = [] then []
        else [("conflict_retry", .table (numberFields order))] := by
  show (overrides.logPolicyContents.map logPair).toList.map Toml.Pair.field ++
    (if order = [] then [] else [backoffBlock horder]).map Toml.Block.field = _
  congr 1
  · cases overrides.logPolicyContents <;> rfl
  · split
    · rfl
    · rw [List.map_singleton, Toml.Block.field, backoffBlock, List.map_map]
      rfl

theorem ofDocument?_document (horder : order.Perm overrides.numbers) :
    Codec.ofDocument? .toml (.table (document horder).fields) =
      some overrides.settings := by
  rw [fields_document, Settings.readByParts.table, Settings.parts,
    List.forall_mem_cons, List.forall_mem_singleton]
  have hboolean : ∀ value, Document.boolean? (.boolean value) = some value :=
    fun _ => rfl
  refine ⟨?backoff, Document.Record.ofFields?_defaulted ?log hboolean⟩
  case backoff =>
    have hfirst :
        valuesOf "conflict_retry" (overrides.logPolicyContents.map fun value =>
          ("log_policy_contents", Document.boolean value)).toList = [] := by
      cases overrides.logPolicyContents <;> rfl
    refine RecordPart.inTable_iff.2 ?_
    show valuesOf "conflict_retry" _ = [] ∧ _ ∨
        ∃ item, valuesOf "conflict_retry" _ = [item] ∧ _
    rw [Document.valuesOf_append, hfirst, List.nil_append]
    by_cases hnone : order = []
    · subst hnone
      exact .inl
        ⟨rfl, congrArg some (backoff_of_numbers_eq_nil horder.symm.eq_nil).symm⟩
    · rw [if_neg hnone]
      exact .inr ⟨_, rfl, ofDocument?_numbers horder⟩
  case log =>
    rw [Document.valuesOf_append]
    cases overrides.logPolicyContents <;> split <;> rfl

end

end Overrides

namespace Settings

variable {settings : Settings}

theorem checked_eq_ok_iff :
    settings.checked = .ok settings ↔ settings.backoff.InRange := by
  rw [← Backoff.validate_eq_ok_iff, checked, validate]
  split
  next hvalid => exact ⟨fun _ => hvalid, fun _ => rfl⟩
  next hfault => rw [hfault]; exact ⟨nofun, nofun⟩

theorem exists_checked_eq_invalid (hrange : ¬settings.backoff.InRange) :
    ∃ fault, settings.checked = .error (.invalid fault) := by
  rw [← Backoff.validate_eq_ok_iff] at hrange
  rw [checked, validate]
  split
  next hvalid => exact absurd hvalid hrange
  next fault _ => exact ⟨fault, rfl⟩

theorem exists_checked_eq_invalid_of_lt
    (hdelays : settings.backoff.maxDelayMs < settings.backoff.initialDelayMs) :
    ∃ fault, settings.checked = .error (.invalid fault) :=
  exists_checked_eq_invalid fun hrange => UInt64.not_lt.2 hrange.2 hdelays

end Settings

namespace Overrides

/-- A text that names some of the settings is read as these settings, with
defaults in place of the others.  It is accepted exactly if the settings that
come out are in range, and is refused as out of range otherwise.  This is so if
only one delay is named and is out of order with the default of the other. -/
theorem parse_partial (overrides : Overrides) {order : List BackoffNumber}
    {text : String} (horder : order.Perm overrides.numbers)
    (hlaid : Toml.Laid (overrides.lines order) text.toList) :
    decode? .toml text = some overrides.settings ∧
    (Settings.parse text = .ok overrides.settings ↔
      overrides.settings.backoff.InRange) ∧
    (¬overrides.settings.backoff.InRange →
      ∃ fault, Settings.parse text = .error (.invalid fault)) ∧
    (overrides.maxDelayMs = none →
      ∀ delay ∈ overrides.initialDelayMs, 5000 < delay.1 →
      ∃ fault, Settings.parse text = .error (.invalid fault)) ∧
    (overrides.initialDelayMs = none →
      ∀ delay ∈ overrides.maxDelayMs, delay.1 < 100 →
      ∃ fault, Settings.parse text = .error (.invalid fault)) := by
  have hread : decode? .toml text = some overrides.settings := by
    rw [← lines_document horder] at hlaid
    have hparse : Toml.parse? text = some (.table (document horder).fields) :=
      (document horder).parse?_eq hlaid
    rw [decode?, Format.parse?, hparse]
    exact ofDocument?_document horder
  have hparse : Settings.parse text = overrides.settings.checked := by
    rw [Settings.parse, hread]
  rw [hparse]
  refine ⟨hread, Settings.checked_eq_ok_iff, Settings.exists_checked_eq_invalid,
    ?initial, ?cap⟩
  case initial =>
    intro hcap delay hdelay hlt
    apply Settings.exists_checked_eq_invalid_of_lt
    show overrides.backoff.maxDelayMs < overrides.backoff.initialDelayMs
    rw [backoff, hcap, Option.mem_def.1 hdelay]
    exact hlt
  case cap =>
    intro hinitial delay hdelay hlt
    apply Settings.exists_checked_eq_invalid_of_lt
    show overrides.backoff.maxDelayMs < overrides.backoff.initialDelayMs
    rw [backoff, hinitial, Option.mem_def.1 hdelay]
    exact hlt

/-- A first delay that is the default cap is accepted; a cap below the default
of the first delay is refused, with five attempts named behind it. -/
theorem parse_partial_lone_delay :
    Settings.parse
      "log_policy_contents = true\n[conflict_retry]\ninitial_delay_ms = 5000\n"
      = .ok ⟨⟨3, 5000, 5000⟩, true⟩ ∧
    ∃ fault,
      Settings.parse "[conflict_retry]\nmax_delay_ms = 99\nmax_attempts = 5\n" =
        .error (.invalid fault) := by
  constructor
  · have hinitial : [BackoffNumber.initialDelayMs ⟨5000, by decide⟩].Perm
        (numbers ⟨some true, none, some ⟨5000, by decide⟩, none⟩) := .refl _
    refine (parse_partial _ hinitial ?_).2.1.2 (by decide)
    exact Toml.laid_of_flatMap (by decide)
  · have hcap : [BackoffNumber.maxDelayMs ⟨99, by decide⟩, .maxAttempts 5].Perm
        (numbers ⟨none, some 5, none, some ⟨99, by decide⟩⟩) := .swap _ _ _
    refine (parse_partial _ hcap ?_).2.2.2.2 rfl _ rfl (by decide)
    exact Toml.laid_of_flatMap (by decide)

end Overrides

end AccessPolicy
