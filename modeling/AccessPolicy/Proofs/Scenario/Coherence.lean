import AccessPolicy.Proofs.Scenario.Journal

/-!
# Coherence of what was observed

A state that has an etag shows its role as it stood in the version with
this etag: no operation, however it ends, puts members of one version
beside the etag of another.  An etag names one version as long as there are
fewer writes than the version counter has values, so a state whose etag is
current shows what is stored.  Later observations of a state are of the
same version or of a later one.
-/

namespace AccessPolicy.Scenario

variable {own : String} {settings : Settings} {journal : Journal}

/-- A state has no identity or that of its role on the own resource, and no etag
or that of a version whose first entry for the role has its members.  Only
members that were set by hand may differ. -/
structure Coherent (own : String) (versions : List Stored)
    (noted : Noted) : Prop where
  id : ∀ id, noted.state.id = some id →
    id.role = noted.state.role ∧ id.resource = own
  etag : ∀ etag, noted.state.etag = some etag →
    ∃ version ∈ versions, version.etag = etag ∧
      ∃ entry, version.policy.binding? noted.state.role = some entry ∧
        (noted.edited = false → noted.state.members = entry.memberSet)

namespace Coherent

variable {versions later fresh : List Stored} {noted : Noted}

theorem mono (hcoherent : Coherent own versions noted)
    (hsub : versions ⊆ later) : Coherent own later noted where
  id := hcoherent.id
  etag etag hetag := by
    obtain ⟨version, hversion, hfound⟩ := hcoherent.etag etag hetag
    exact ⟨version, hsub hversion, hfound⟩

theorem of_admits (hcoherent : Coherent own versions noted)
    {id : Option BindingId} (hid : noted.state.Admits own id) :
    ∀ known, id = some known →
      known.role = noted.state.role ∧ known.resource = own := by
  intro known hknown
  obtain hold | rfl := hid known hknown
  · exact hcoherent.id known hold
  · exact ⟨rfl, rfl⟩

/-- Whatever happens to a coherent state leaves it coherent. -/
theorem fate (hcoherent : Coherent own versions noted) {next : Noted}
    (hfate : Fate own fresh noted next) (hfresh : fresh ⊆ versions) :
    Coherent own versions next := by
  cases hfate with
  | kept hid => exact ⟨hcoherent.of_admits hid, hcoherent.etag⟩
  | edited members =>
      refine ⟨hcoherent.id, ?_⟩
      intro etag hetag
      obtain ⟨version, hversion, hsame, entry, hentry, -⟩ :=
        hcoherent.etag etag hetag
      exact ⟨version, hversion, hsame, entry, hentry, nofun⟩
  | @observed _ version entry hid hversion hentry =>
      refine ⟨hcoherent.of_admits hid, ?_⟩
      intro etag hetag
      obtain rfl := Option.some.inj hetag
      exact ⟨version, hfresh hversion, rfl, entry, hentry, fun _ => rfl⟩

end Coherent

/-- A journal misses no version, and all states in it are coherent. -/
structure Journal.Sound (own : String) (journal : Journal) : Prop where
  succession : Succession journal.first journal.written (journal.current own)
  coherent : ∀ name, Coherent own journal.versions (journal.noted name)

namespace Journal

theorem sound_begin (own : String) (arena : Arena) :
    (begin own arena).Sound own where
  succession := .none
  coherent _ := ⟨nofun, nofun⟩

theorem Sound.origin (hsound : journal.Sound own) {origin : Noted}
    (horigin : Origin own journal origin) :
    Coherent own journal.versions origin := by
  cases horigin with
  | named name => exact hsound.coherent name
  | declared => exact ⟨nofun, nofun⟩
  | adopted role =>
      refine ⟨?_, nofun⟩
      rintro id ⟨⟩
      exact ⟨rfl, rfl⟩

theorem Sound.next (hsound : journal.Sound own) (move : Move) :
    (journal.next settings own move).Sound own where
  succession :=
    hsound.succession.trans (journal.succession_next settings own move)
  coherent name := by
    obtain ⟨origin, horigin, -, hfate⟩ :=
      journal.leads_next settings own move name
    have hgrown : journal.versions ⊆
        (journal.next settings own move).versions :=
      List.cons_subset_cons _ (List.subset_append_left _ _)
    have hfresh :
        journal.current own :: move.versions settings own journal.stage ⊆
          (journal.next settings own move).versions := by
      apply List.cons_subset.2
      refine ⟨hgrown hsound.succession.last_mem, ?_⟩
      exact List.subset_cons_of_subset _ (List.subset_append_right _ _)
    exact ((hsound.origin horigin).mono hgrown).fate hfate hfresh

theorem Sound.run (hsound : journal.Sound own) (moves : List Move) :
    (journal.run settings own moves).Sound own := by
  induction moves generalizing journal with
  | nil => exact hsound
  | cons move rest ih => exact ih (hsound.next move)

/-- A state has the etag that it had, or that of one of some versions. -/
def SeenIn (versions : List Stored) (before after : Option Etag) : Prop :=
  after = before ∨ ∃ version ∈ versions, after = some version.etag

theorem SeenIn.of_fate {versions : List Stored} {noted next : Noted}
    (hfate : Fate own versions noted next) :
    SeenIn versions noted.state.etag next.state.etag := by
  cases hfate with
  | kept | edited => exact .inl rfl
  | observed _ hversion => exact .inr ⟨_, hversion, rfl⟩

/-- What was seen in some versions and then in later ones was seen in
all of them. -/
theorem SeenIn.trans {first last : Stored} {versions later : List Stored}
    {before between after : Option Etag} (hlast : last ∈ first :: versions)
    (hfirst : SeenIn (first :: versions) before between)
    (hsecond : SeenIn (last :: later) between after) :
    SeenIn (first :: (versions ++ later)) before after := by
  rw [← List.cons_append]
  obtain rfl | ⟨version, hversion, hafter⟩ := hsecond
  · obtain hsame | ⟨version, hversion, hafter⟩ := hfirst
    · exact .inl hsame
    · exact .inr ⟨version, List.mem_append_left _ hversion, hafter⟩
  · refine .inr ⟨version, ?_, hafter⟩
    obtain rfl | hlater := List.mem_cons.1 hversion
    · exact List.mem_append_left _ hlast
    · exact List.mem_append_right _ hlater

/-- Some moves add versions behind the current one, and a state whose name they
do not renew is observed in these, if at all. -/
theorem run_seenIn (settings : Settings) (own : String) (journal : Journal)
    (moves : List Move) :
    ∃ more, (journal.run settings own moves).versions =
      journal.versions ++ more ∧
      ∀ name, (∀ move ∈ moves, move.renews name = false) →
        SeenIn (journal.current own :: more) (journal.stage.state name).etag
          ((journal.run settings own moves).stage.state name).etag := by
  induction moves generalizing journal with
  | nil => exact ⟨[], (List.append_nil _).symm, fun _ _ => .inl rfl⟩
  | cons move rest ih =>
      obtain ⟨more, hversions, hseen⟩ := ih (journal.next settings own move)
      refine ⟨move.versions settings own journal.stage ++ more, ?_, ?_⟩
      · rw [← List.append_assoc]
        exact hversions
      · intro name hkept
        obtain ⟨origin, -, horigin, hfate⟩ :=
          journal.leads_next settings own move name
        obtain rfl := horigin (hkept move List.mem_cons_self)
        have hlater := hseen name fun later hlater =>
          hkept later (List.mem_cons_of_mem _ hlater)
        exact .trans (journal.succession_next settings own move).last_mem
          (.of_fate hfate) hlater

def etags (journal : Journal) : List Etag :=
  journal.versions.map (·.etag)

/-- Of two observations of a state the later one is of the same version
or of a later one. -/
theorem Sound.observed_in_order (hsound : journal.Sound own) (moves : List Move)
    {name : String} (hkept : ∀ move ∈ moves, move.renews name = false)
    {earlier later : Etag}
    (hearlier : (journal.stage.state name).etag = some earlier)
    (hlater : ((journal.run settings own moves).stage.state name).etag =
      some later) :
    ∃ older newer : Nat, older ≤ newer ∧
      (journal.run settings own moves).etags[older]? = some earlier ∧
      (journal.run settings own moves).etags[newer]? = some later := by
  obtain ⟨more, hversions, hseen⟩ := journal.run_seenIn settings own moves
  obtain ⟨version, hversion, rfl, -⟩ :=
    (hsound.coherent name).etag earlier hearlier
  obtain ⟨older, holder, hversion⟩ := List.getElem_of_mem hversion
  have hfound : (journal.run settings own moves).etags[older]? =
      some version.etag := by
    rw [etags, hversions, List.getElem?_map, List.getElem?_append_left holder,
      List.getElem?_eq_getElem holder, hversion]
    rfl
  obtain hsame | ⟨seen, hseen, hetag⟩ := hseen name hkept
  · -- Nothing was observed in between.
    rw [hlater, hearlier] at hsame
    exact ⟨older, older, le_rfl, hfound, hfound.trans hsame.symm⟩
  · -- The later observation is among the versions from the one on that was
    -- current in between.
    obtain ⟨newer, hnewer⟩ := List.getElem?_of_mem hseen
    refine ⟨older, journal.written.length + newer, ?_, hfound, ?_⟩
    · exact (Nat.le_of_lt_succ holder).trans (Nat.le_add_right _ _)
    · rw [etags, List.getElem?_map, hversions, ← List.getElem?_drop, versions,
        List.cons_append, hsound.succession.drop_append, hnewer,
        ← hlater, hetag]
      rfl

theorem first_run (journal : Journal) (moves : List Move) :
    (journal.run settings own moves).first = journal.first := by
  induction moves generalizing journal with
  | nil => rfl
  | cons move rest ih => exact ih (journal.next settings own move)

/-- An etag that is current names the current version, as long as no
etag was used twice. -/
theorem Sound.shows_current (hsound : journal.Sound own)
    (hnodup : journal.etags.Nodup) {name : String}
    (hcurrent : (journal.stage.state name).etag =
      some (journal.current own).etag)
    (hunedited : journal.edited name = false) :
    ∃ entry, (journal.current own).policy.binding?
      (journal.stage.state name).role = some entry ∧
      (journal.stage.state name).members = entry.memberSet := by
  obtain ⟨version, hversion, hsame, entry, hentry, hmembers⟩ :=
    (hsound.coherent name).etag _ hcurrent
  obtain rfl : version = journal.current own :=
    List.inj_on_of_nodup_map hnodup hversion hsound.succession.last_mem hsame
  exact ⟨entry, hentry, hmembers hunedited⟩

end Journal

/-- Whatever an operator and other writers do on a resource, and however the
operations end, every state is coherent with the versions that the policy really
had.  With fewer writes than the version counter has values no etag was used
twice, so that a state whose etag is current shows what is stored.  As long as a
name stands for the same state, later observations are not of earlier
versions. -/
theorem observations_coherent (own : String) (settings : Settings)
    (arena : Arena) (moves : List Move)
    (hfew : ((Journal.begin own arena).run settings own moves).written.length <
      2 ^ 64) :
    let journal := (Journal.begin own arena).run settings own moves
    journal.stage = Stage.after settings own { arena } (moves.map (·.step)) ∧
    Succession (arena.authority.stored own) journal.written
      (journal.current own) ∧
    journal.etags.Nodup ∧
    ∀ name,
      let state := journal.stage.state name
      Coherent own journal.versions (journal.noted name) ∧
      (state.etag = some (journal.current own).etag →
        journal.edited name = false →
        ∃ entry, (journal.current own).policy.binding? state.role = some entry ∧
          state.members = entry.memberSet) ∧
      ∀ before after, moves = before ++ after →
        (∀ move ∈ after, move.renews name = false) →
        ∀ earlier later,
          (((Journal.begin own arena).run settings own before).stage.state
            name).etag = some earlier →
          state.etag = some later →
          ∃ older newer : Nat, older ≤ newer ∧
            journal.etags[older]? = some earlier ∧
            journal.etags[newer]? = some later := by
  intro journal
  have hsound : journal.Sound own := (Journal.sound_begin own arena).run moves
  have hfirst : journal.first = arena.authority.stored own :=
    Journal.first_run _ moves
  have hnodup : journal.etags.Nodup := hsound.succession.nodup_etags hfew
  refine ⟨Journal.stage_run settings own _ moves,
    hfirst ▸ hsound.succession, hnodup, ?_⟩
  intro name state
  refine ⟨hsound.coherent name, hsound.shows_current hnodup, ?_⟩
  intro before after hmoves hkept earlier later hearlier hlater
  have hsplit : journal =
      ((Journal.begin own arena).run settings own before).run settings own
        after := by
    rw [Journal.run, Journal.run, ← List.foldl_append, ← hmoves]
    rfl
  have hbefore :
      ((Journal.begin own arena).run settings own before).Sound own :=
    (Journal.sound_begin own arena).run before
  rw [hsplit]
  apply hbefore.observed_in_order after hkept hearlier
  rw [← hsplit]
  exact hlater

/-- A binding is created while another writer grants its role to a second
member, between the commit and the closing read, and is read again after its
members were set. -/
def contested : List Move :=
  [.declare "viewer" "roles/viewer" ["user:a"],
    .race
      [{}, { before := [.write none (· ++ [⟨"roles/viewer", ["user:b"]⟩])] }],
    .call (.run .create "viewer"),
    .interfere
      [.write none fun _ => [⟨"roles/viewer", ["user:c"]⟩],
        .failFetch (.transport "down")],
    .call (.setMembers "viewer" []),
    .call (.run .read "viewer"),
    .call (.run .read "viewer")]

theorem observations_coherent_contested :
    let journal :=
      (Journal.begin "projects/demo" {}).run {} "projects/demo" contested
    journal.written.length < 2 ^ 64 ∧ journal.etags.Nodup ∧
      journal.etags.length = 4 ∧
      (journal.stage.state "viewer").etag =
        some (journal.current "projects/demo").etag ∧
      ∃ entry, (journal.current "projects/demo").policy.binding?
        "roles/viewer" = some entry ∧
        (journal.stage.state "viewer").members = entry.memberSet := by
  intro journal
  have hfew : journal.written.length < 2 ^ 64 := by decide +kernel
  have hcurrent : (journal.stage.state "viewer").etag =
      some (journal.current "projects/demo").etag := by decide +kernel
  obtain ⟨-, -, hnodup, hnames⟩ :=
    observations_coherent "projects/demo" {} {} contested hfew
  obtain ⟨-, hshows, -⟩ := hnames "viewer"
  exact ⟨hfew, hnodup, by decide +kernel, hcurrent,
    hshows hcurrent (by decide +kernel)⟩

end AccessPolicy.Scenario
