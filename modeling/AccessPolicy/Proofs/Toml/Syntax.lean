import AccessPolicy.Proofs.Text.Decimal
import AccessPolicy.Toml.Syntax
import Mathlib.Data.List.Forall2

/-!
# Reading the lines of a TOML text

The decimal digits of a number below the bound of words and the words for truth
values are read as what they stand for, up to the end of the line.  So is a line
with a bare key and such a value, and one with the header of a table.  A text of
such lines says what its lines say, however they are indented and however many
blank lines stand between them.
-/

namespace AccessPolicy.Toml

/-- Nothing more of a line is in front of a text. -/
def EndsLine (text : List Char) : Prop :=
  ∀ c ∈ text.head?, c = '\n'

section

variable {digits rest : List Char}

theorem EndsLine.isKind_eq_false {isKind : Char → Bool} (hrest : EndsLine rest)
    (hkind : isKind '\n' = false) : ∀ c ∈ rest.head?, isKind c = false := by
  intro c hc
  rw [hrest c hc, hkind]

/-- The digits of a number in a line are followed by its other digits and
the end of the line. -/
theorem fixedDigits?_line {count : Nat} {found : Nat × List Char}
    (hrest : EndsLine rest)
    (hfound : fixedDigits? count (digits ++ rest) = some found) :
    found.2 = digits.drop count ++ rest := by
  obtain ⟨htaken, hvalue⟩ := Option.ite_none_right_eq_some.1 hfound
  obtain rfl := Option.some.inj hvalue
  rw [Bool.and_eq_true_iff, decide_eq_true_eq, List.length_take,
    List.all_eq_true] at htaken
  obtain ⟨hlength, hall⟩ := htaken
  -- The end of the line is no digit, so they do not reach behind it.
  have hcount : count ≤ digits.length := by
    by_contra! hlong
    cases rest with
    | nil => rw [List.append_nil] at hlength; omega
    | cons c later =>
        obtain rfl := hrest c rfl
        have hend : '\n' ∈ (digits ++ '\n' :: later).take count :=
          List.mem_take_iff_getElem.2 ⟨digits.length, by simp; omega, by simp⟩
        cases hall _ hend
  exact List.drop_append_of_le_length hcount

/-- No mark follows some of the digits of a number in a line. -/
theorem pass?_fixedDigits? {count : Nat} {mark : Char} {found : Nat × List Char}
    (hrest : EndsLine rest) (hdigits : ∀ c ∈ digits, c.isDigit = true)
    (hmark : mark.isDigit = false) (hend : mark ≠ '\n')
    (hfound : fixedDigits? count (digits ++ rest) = some found) :
    pass? mark found.2 = none := by
  have hothers : ∀ c ∈ digits.drop count, c.isDigit = true :=
    fun c hc => hdigits c (List.mem_of_mem_drop hc)
  rw [fixedDigits?_line hrest hfound]
  cases hnext : digits.drop count ++ rest with
  | nil => rfl
  | cons c later =>
      rw [pass?, if_neg]
      rintro rfl
      by_cases hnone : digits.drop count = []
      · rw [hnone, List.nil_append] at hnext
        exact hend (hrest _ (congrArg List.head? hnext))
      · exact Text.run_append_ne hothers hnone hmark hnext

theorem fixedDigits?_of_twoDigits? {least greatest : Nat} {text : List Char}
    {found : Nat × List Char}
    (hfound : twoDigits? least greatest text = some found) :
    fixedDigits? 2 text = some found := by
  obtain ⟨whole, hwhole, hbounds⟩ := Option.bind_eq_some_iff.1 hfound
  obtain ⟨-, hsame⟩ := Option.ite_none_right_eq_some.1 hbounds
  exact hwhole.trans hsame

/-- The digits of a number are no moment. -/
theorem moment?_line (hrest : EndsLine rest)
    (hdigits : ∀ c ∈ digits, c.isDigit = true) :
    moment? (digits ++ rest) = none := by
  have hdate : date? (digits ++ rest) = none := by
    rw [Option.eq_none_iff_forall_ne_some]
    intro later hdate
    obtain ⟨found, hfound, hdate⟩ := Option.bind_eq_some_iff.1 hdate
    obtain ⟨_, hpass, -⟩ := Option.bind_eq_some_iff.1 hdate
    have hnone : pass? '-' found.2 = none :=
      pass?_fixedDigits? hrest hdigits rfl (by decide) hfound
    cases hnone.symm.trans hpass
  have htime : time? (digits ++ rest) = none := by
    rw [Option.eq_none_iff_forall_ne_some]
    intro later htime
    obtain ⟨found, hfound, htime⟩ := Option.bind_eq_some_iff.1 htime
    obtain ⟨_, hpass, -⟩ := Option.bind_eq_some_iff.1 htime
    have hnone : pass? ':' found.2 = none :=
      pass?_fixedDigits? hrest hdigits rfl (by decide)
        (fixedDigits?_of_twoDigits? hfound)
    cases hnone.symm.trans hpass
  rw [moment?, hdate]
  exact htime

theorem wellSpaced_digits (hdigits : ∀ c ∈ digits, c.isDigit = true)
    (hne : digits ≠ []) : wellSpaced digits = true := by
  fun_induction wellSpaced digits with
  | case1 => exact absurd rfl hne
  | case2 => cases hdigits '_' List.mem_cons_self
  | case3 => rfl
  | case4 => cases hdigits '_' (List.mem_cons_of_mem _ List.mem_cons_self)
  | case5 _ rest _ hmore _ ih =>
      exact ih (fun c hc => hdigits c (List.mem_cons_of_mem _ hc)) hmore

theorem digitRun?_line (hrest : EndsLine rest)
    (hdigits : ∀ c ∈ digits, c.isDigit = true) (hne : digits ≠ []) :
    digitRun? Char.isDigit (digits ++ rest) = some (digits, rest) := by
  have hrun : ∀ c ∈ digits, (c.isDigit || decide (c = '_')) = true :=
    fun c hc => Bool.or_eq_true_iff.2 (.inl (hdigits c hc))
  have hstop : ∀ c ∈ rest.head?, (c.isDigit || decide (c = '_')) = false :=
    hrest.isKind_eq_false rfl
  have hplain : digits.filter (· ≠ '_') = digits := by
    refine List.filter_eq_self.2 fun c hc => decide_eq_true ?_
    rintro rfl
    cases hdigits _ hc
  rw [digitRun?, Text.takeWhile_run hrun hstop, Text.dropWhile_run hrun hstop,
    if_pos (wellSpaced_digits hdigits hne), hplain]

end

section

variable {value : Nat} {rest : List Char}

theorem decimalRun?_line (hrest : EndsLine rest) :
    decimalRun? (Nat.toDigits 10 value ++ rest) =
      some (Nat.toDigits 10 value, rest) := by
  have hrun := digitRun?_line hrest (fun _ hc => Text.isDigit_of_mem_digits hc)
    (Nat.toDigits_ne_nil (n := value))
  unfold decimalRun?
  split
  next hzero =>
    rw [hrun] at hzero
    obtain ⟨hdigits, -⟩ := Prod.mk.inj (Option.some.inj hzero)
    cases Text.eq_nil_of_toDigits hdigits
  next => exact hrun

theorem toDigits_append_ne {mark : Char} {later : List Char}
    (hmark : mark.isDigit = false) :
    Nat.toDigits 10 value ++ rest ≠ mark :: later :=
  Text.run_append_ne (fun _ hc => Text.isDigit_of_mem_digits hc)
    Nat.toDigits_ne_nil hmark

/-- A leading zero of a number in a line is followed by no mark. -/
theorem toDigits_append_ne_zero {mark : Char} {later : List Char}
    (hrest : EndsLine rest) (hmark : mark ≠ '\n') :
    Nat.toDigits 10 value ++ rest ≠ '0' :: mark :: later := by
  intro htext
  cases hdigits : Nat.toDigits 10 value with
  | nil => exact Nat.toDigits_ne_nil hdigits
  | cons c more =>
      rw [hdigits] at htext
      obtain ⟨rfl, hnext⟩ := List.cons.inj htext
      obtain rfl := Text.eq_nil_of_toDigits hdigits
      exact hmark (hrest mark (congrArg List.head? hnext))

theorem sign_line :
    sign (Nat.toDigits 10 value ++ rest) =
      (false, Nat.toDigits 10 value ++ rest) :=
  sign.eq_3 _ (fun _ => toDigits_append_ne rfl) fun _ => toDigits_append_ne rfl

/-- The digits of a number are no floating-point numeral. -/
theorem float?_line (hrest : EndsLine rest) :
    float? (Nat.toDigits 10 value ++ rest) = none := by
  have hfraction : fraction? rest = none := by
    unfold fraction?
    split
    next => cases hrest _ rfl
    next => rfl
  have hexponent : exponent? rest = none := by
    cases rest with
    | nil => rfl
    | cons c later =>
        obtain rfl := hrest c rfl
        rfl
  rw [float?, sign_line]
  split
  next hword => exact absurd hword (toDigits_append_ne rfl)
  next hword => exact absurd hword (toDigits_append_ne rfl)
  next =>
    simp only [finite?, sign_line, decimalRun?_line hrest, hfraction, hexponent,
      Option.bind_eq_bind, Option.bind_some, Option.map_none, Option.bind_none]

theorem integer?_line (hrest : EndsLine rest) (hvalue : value < 2 ^ 63) :
    integer? (Nat.toDigits 10 value ++ rest) = some ((value : Int), rest) := by
  have hpositive : positive? value = some (value : Int) := if_pos hvalue
  rw [integer?.eq_4 _ (fun _ => toDigits_append_ne_zero hrest (by decide))
    (fun _ => toDigits_append_ne_zero hrest (by decide))
    (fun _ => toDigits_append_ne_zero hrest (by decide))]
  simp only [sign_line, decimalRun?_line hrest,
    Nat.ofDigitChars_ten_toDigits, hpositive, Option.bind_eq_bind,
    Option.bind_some, Bool.false_eq_true, if_false, Option.map_some]

/-- The digits of a number are read as the number. -/
theorem plainValue?_line (hrest : EndsLine rest) (hvalue : value < 2 ^ 63) :
    plainValue? (Nat.toDigits 10 value ++ rest) =
      some (.integer value, rest) := by
  rw [plainValue?.eq_3 _ (fun _ => toDigits_append_ne rfl)
    (fun _ => toDigits_append_ne rfl),
    moment?_line hrest (fun _ hc => Text.isDigit_of_mem_digits hc),
    float?_line hrest, integer?_line hrest hvalue]
  rfl

end

/-! ## Values -/

section

variable {blanks text : List Char}

theorem skipBlanks_append (hblanks : ∀ c ∈ blanks, isBlank c = true)
    (htext : ∀ c ∈ text.head?, isBlank c = false) :
    skipBlanks (blanks ++ text) = text :=
  Text.dropWhile_run hblanks htext

theorem skipBlanks_eq_self (htext : ∀ c ∈ text.head?, isBlank c = false) :
    skipBlanks text = text :=
  skipBlanks_append (List.forall_mem_nil _) htext

theorem isBlank_head? (hspace : ∀ later, text ≠ ' ' :: later)
    (htab : ∀ later, text ≠ '\t' :: later) :
    ∀ c ∈ text.head?, isBlank c = false := by
  intro c hc
  obtain ⟨later, rfl⟩ := List.head?_eq_some_iff.1 hc
  by_contra hblank
  rw [Bool.not_eq_false, isBlank, Bool.or_eq_true_iff, decide_eq_true_eq,
    decide_eq_true_eq]
    at hblank
  obtain rfl | rfl := hblank
  · exact hspace later rfl
  · exact htab later rfl

end

/-- A spelling is read as a value up to the end of its line. -/
structure SpellsValue (spelling : String) (value : Document) : Prop where
  begins : ∀ {rest : List Char}, EndsLine rest →
    ∀ c ∈ (spelling.toList ++ rest).head?, isBlank c = false
  read : ∀ {rest : List Char}, EndsLine rest →
    value? (nestingBound - 1) (spelling.toList ++ rest) = some (value, rest)

theorem spellsValue_boolean (value : Bool) :
    SpellsValue (toString value) (.boolean value) where
  begins _ := by
    cases value <;> rintro c ⟨⟩ <;> rfl
  read _ := by
    cases value <;> rfl

theorem toList_toString (value : Nat) :
    (toString value).toList = Nat.toDigits 10 value :=
  String.toList_ofList

theorem spellsValue_nat {value : Nat} (hvalue : value < 2 ^ 63) :
    SpellsValue (toString value) (.integer value) where
  begins {rest} _ := by
    rw [toList_toString]
    exact isBlank_head? (fun _ => toDigits_append_ne rfl) fun _ =>
      toDigits_append_ne rfl
  read {rest} hrest := by
    rw [toList_toString, value?.eq_7 _ _ (fun _ => toDigits_append_ne rfl)
      (fun _ => toDigits_append_ne rfl) (fun _ _ => toDigits_append_ne rfl)
      (fun _ _ _ => toDigits_append_ne rfl) (fun _ _ => toDigits_append_ne rfl)
      (fun _ _ _ => toDigits_append_ne rfl)]
    exact plainValue?_line hrest hvalue

structure BareKey (name : String) : Prop where
  nonempty : name.toList ≠ []
  chars : ∀ c ∈ name.toList, isBareKeyChar c = true

instance (name : String) : Decidable (BareKey name) :=
  decidable_of_iff (name.toList ≠ [] ∧ name.toList.all isBareKeyChar = true)
    ⟨fun hname => ⟨hname.1, List.all_eq_true.1 hname.2⟩,
      fun hname => ⟨hname.nonempty, List.all_eq_true.2 hname.chars⟩⟩

section

variable {name : String} {rest : List Char}

theorem BareKey.append_ne (hname : BareKey name) {mark : Char}
    {later : List Char} (hmark : isBareKeyChar mark = false) :
    name.toList ++ rest ≠ mark :: later :=
  Text.run_append_ne hname.chars hname.nonempty hmark

/-- A bare key is read up to the blanks behind it, if no dot follows. -/
theorem key?_bare (hname : BareKey name)
    (hstop : ∀ c ∈ rest.head?, isBareKeyChar c = false)
    (hdot : ∀ later, skipBlanks rest = '.' :: later → False) :
    key? (name.toList ++ rest) = some (⟨[], name⟩, skipBlanks rest) := by
  have hpart : keyPart? (name.toList ++ rest) = some (name, rest) := by
    have hnonempty : name.toList.isEmpty = false :=
      List.isEmpty_eq_false_iff.2 hname.nonempty
    rw [keyPart?.eq_3 _ (fun _ => hname.append_ne rfl)
      (fun _ => hname.append_ne rfl),
      Text.takeWhile_run hname.chars hstop,
      Text.dropWhile_run hname.chars hstop, hnonempty,
      String.ofList_toList]
    rfl
  have hparts : keyParts? (name.toList ++ rest) =
      some ([name], skipBlanks rest) := by
    have hhead : ∀ c ∈ (name.toList ++ rest).head?, isBlank c = false :=
      isBlank_head? (fun _ => hname.append_ne rfl) fun _ => hname.append_ne rfl
    rw [keyParts?, skipBlanks_eq_self hhead, hpart]
    split
    next hnone => cases hnone
    next hsome =>
      cases hsome
      split
      next hmark => exact absurd hmark (hdot _)
      next => rfl
  rw [key?, hparts]
  rfl

end

/-! ## Lines -/

/-- The end of a line is passed over. -/
theorem lineEnd?_endsLine {rest : List Char} (hrest : EndsLine rest) :
    lineEnd? rest = some rest.tail := by
  cases rest with
  | nil => rfl
  | cons c later =>
      obtain rfl := hrest c rfl
      rfl

/-- The characters that may stand in front of what a line says, or make
it say nothing. -/
def layoutChars : List Char := [' ', '\t', '\n', '\r', '#', '\ufeff']

/-- A line says something and is read up to its end. -/
structure SpellsLine (line : String) (said : Line) : Prop where
  begins : ∃ c later, line.toList = c :: later ∧ c ∉ layoutChars
  read : ∀ {rest : List Char}, EndsLine rest →
    line? (line.toList ++ rest) = some (said, rest)

def pairLine (name spelling : String) : String := name ++ " = " ++ spelling

def headerLine (name : String) : String := "[" ++ name ++ "]"

theorem spellsLine_pair {name spelling : String} {value : Document}
    (hname : BareKey name) (hvalue : SpellsValue spelling value) :
    SpellsLine (pairLine name spelling) (.pair ⟨[], name⟩ value) where
  begins := by
    obtain ⟨c, later, hchars⟩ := List.exists_cons_of_ne_nil hname.nonempty
    refine ⟨c, later ++ (" = " ++ spelling).toList, ?_, fun hmark => ?_⟩
    · rw [pairLine, String.append_assoc, String.toList_append, hchars]
      rfl
    · have hother : ∀ mark ∈ layoutChars, (!isBareKeyChar mark) = true :=
        List.all_eq_true.1 rfl
      have hbare := hother c hmark
      rw [hname.chars c (hchars ▸ List.mem_cons_self)] at hbare
      cases hbare
  read {rest} hrest := by
    have hline : (pairLine name spelling).toList ++ rest =
        name.toList ++ ' ' :: '=' :: ' ' :: (spelling.toList ++ rest) := by
      rw [pairLine, String.toList_append, String.toList_append,
        List.append_assoc, List.append_assoc]
      rfl
    have hkey :
        key? (name.toList ++ ' ' :: '=' :: ' ' :: (spelling.toList ++ rest)) =
          some (⟨[], name⟩, '=' :: ' ' :: (spelling.toList ++ rest)) :=
      key?_bare hname (by rintro c ⟨⟩; rfl) (by rintro later ⟨⟩)
    have hblank : skipBlanks (' ' :: (spelling.toList ++ rest)) =
        spelling.toList ++ rest :=
      @skipBlanks_append [' '] _ (List.all_eq_true.1 rfl) (hvalue.begins hrest)
    rw [hline, line?.eq_2 _ (fun _ => hname.append_ne rfl), pair?, hkey]
    simp only [hblank, hvalue.read hrest, Option.map_some]

theorem spellsLine_header {name : String} (hname : BareKey name) :
    SpellsLine (headerLine name) (.header ⟨[], name⟩ false) where
  begins := ⟨'[', _,
    by rw [headerLine, String.toList_append, String.toList_append]; rfl,
    by decide⟩
  read {rest} hrest := by
    have hline : (headerLine name).toList ++ rest =
        '[' :: (name.toList ++ ']' :: rest) := by
      rw [headerLine, String.toList_append, String.toList_append,
        List.append_assoc, List.append_assoc]
      rfl
    have hkey : key? (name.toList ++ ']' :: rest) =
        some (⟨[], name⟩, ']' :: rest) :=
      key?_bare hname (by rintro c ⟨⟩; rfl) (by rintro later ⟨⟩)
    rw [hline, line?, header?.eq_2 _ (fun _ => hname.append_ne rfl), hkey]
    rfl

/-- Lines make up a text, if need be with blanks in front of them and blank
lines between them.  The last line may lack its end. -/
inductive Laid : List String → List Char → Prop
  | done {blanks : List Char} (hblanks : ∀ c ∈ blanks, isBlank c = true) :
      Laid [] blanks
  | blank {blanks text : List Char} {lines : List String}
      (hblanks : ∀ c ∈ blanks, isBlank c = true) (hlaid : Laid lines text) :
      Laid lines (blanks ++ '\n' :: text)
  | line {blanks text : List Char} {line : String} {lines : List String}
      (hblanks : ∀ c ∈ blanks, isBlank c = true) (hlaid : Laid lines text) :
      Laid (line :: lines) (blanks ++ (line.toList ++ '\n' :: text))
  | last {blanks : List Char} {line : String}
      (hblanks : ∀ c ∈ blanks, isBlank c = true) :
      Laid [line] (blanks ++ line.toList)

/-- Lines with their ends, one after the other, make up a text. -/
theorem laid_of_flatMap {lines : List String} {text : List Char}
    (htext : (lines.flatMap fun line => line.toList ++ ['\n']) = text) :
    Laid lines text := by
  subst htext
  induction lines with
  | nil => exact .done (List.forall_mem_nil _)
  | cons line later ih =>
      rw [List.flatMap_cons, List.append_assoc]
      exact .line (List.forall_mem_nil _) ih

section

variable {blanks rest text : List Char} {line : String} {said : Line}
    {lines : List String}

theorem lineEnd?_eq_none {c : Char} {later : List Char} (hc : c ∉ layoutChars) :
    lineEnd? (c :: later) = none := by
  simp only [layoutChars, List.mem_cons, List.not_mem_nil, or_false,
    not_or] at hc
  obtain ⟨hspace, htab, hnewline, hreturn, hcomment, -⟩ := hc
  have hskip : skipBlanks (c :: later) = c :: later :=
    skipBlanks_eq_self (isBlank_head? (by rintro _ ⟨⟩; exact hspace rfl)
      (by rintro _ ⟨⟩; exact htab rfl))
  rw [lineEnd?, hskip, skipComment.eq_2 _ (by rintro _ ⟨⟩; exact hcomment rfl)]
  exact newline?.eq_3 _ (by rintro _ ⟨⟩; exact hnewline rfl)
    (by rintro _ ⟨⟩; exact hreturn rfl)

theorem SpellsLine.lines?_eq (hline : SpellsLine line said)
    (hblanks : ∀ c ∈ blanks, isBlank c = true) (hrest : EndsLine rest) :
    lines? (blanks ++ (line.toList ++ rest)) =
      (lines? rest.tail).map (said :: ·) := by
  obtain ⟨c, later, hchars, hc⟩ := hline.begins
  have hskip : skipBlanks (blanks ++ (line.toList ++ rest)) =
      line.toList ++ rest := by
    rw [hchars]
    refine skipBlanks_append hblanks (isBlank_head? ?_ ?_)
    · rintro _ ⟨⟩
      exact hc (by decide)
    · rintro _ ⟨⟩
      exact hc (by decide)
  have hend : lineEnd? (line.toList ++ rest) = none := by
    rw [hchars]
    exact lineEnd?_eq_none hc
  have hlength : rest.tail.length <
      (blanks ++ (line.toList ++ rest)).length := by
    rw [hchars]
    simp
    omega
  rw [lines?, hskip]
  split
  next hnil =>
    rw [hchars] at hnil
    cases hnil
  next =>
    simp only [hend, hline.read hrest, lineEnd?_endsLine hrest,
      Option.bind_eq_bind, Option.bind_some, if_pos hlength]

theorem lines?_blank (hblanks : ∀ c ∈ blanks, isBlank c = true) :
    lines? (blanks ++ '\n' :: text) = lines? text := by
  have hskip : skipBlanks (blanks ++ '\n' :: text) = '\n' :: text :=
    skipBlanks_append hblanks (by rintro _ ⟨⟩; rfl)
  have hlength : text.length < (blanks ++ '\n' :: text).length := by
    simp
    omega
  rw [lines?, hskip]
  exact if_pos hlength

theorem lines?_done (hblanks : ∀ c ∈ blanks, isBlank c = true) :
    lines? blanks = some [] := by
  have hskip : skipBlanks (blanks ++ []) = [] := skipBlanks_append hblanks nofun
  rw [List.append_nil] at hskip
  rw [lines?, hskip]

/-- A text says what its lines say. -/
theorem lines?_laid {told : List Line} (hlaid : Laid lines text)
    (hlines : List.Forall₂ SpellsLine lines told) :
    lines? text = some told := by
  induction hlaid generalizing told with
  | done hblanks =>
      obtain rfl := List.forall₂_nil_left_iff.1 hlines
      exact lines?_done hblanks
  | blank hblanks _ ih =>
      rw [lines?_blank hblanks]
      exact ih hlines
  | line hblanks _ ih =>
      obtain ⟨said, later, hsaid, hlater, rfl⟩ :=
        List.forall₂_cons_left_iff.1 hlines
      rw [hsaid.lines?_eq hblanks (by rintro c ⟨⟩; rfl), List.tail_cons,
        ih hlater, Option.map_some]
  | @last blanks line hblanks =>
      obtain ⟨said, none, hsaid, hnone, rfl⟩ :=
        List.forall₂_cons_left_iff.1 hlines
      obtain rfl := List.forall₂_nil_left_iff.1 hnone
      have hend : lines? [] = some [] := lines?_done (List.forall_mem_nil _)
      have hread : lines? (blanks ++ (line.toList ++ [])) =
          (lines? []).map (said :: ·) :=
        hsaid.lines?_eq hblanks (by rintro c ⟨⟩)
      rwa [List.append_nil, hend] at hread

/-- A text of such lines does not begin with a mark of its encoding. -/
theorem skipMark_laid {told : List Line} (hlaid : Laid lines text)
    (hlines : List.Forall₂ SpellsLine lines told) : skipMark text = text := by
  refine skipMark.eq_2 text fun later htext => ?_
  -- Blanks are no mark, so the mark would have to follow them.
  have hskip : ∀ {blanks more : List Char}, (∀ c ∈ blanks, isBlank c = true) →
      blanks ++ more = '\ufeff' :: later → more = '\ufeff' :: later := by
    intro blanks more hblanks hmore
    by_cases hnone : blanks = []
    · subst hnone
      exact hmore
    · exact absurd hmore (Text.run_append_ne hblanks hnone rfl)
  have hbegins : ∀ {line : String} {said : Line} {more : List Char},
      SpellsLine line said →
      line.toList ++ more ≠ '\ufeff' :: later := by
    intro line said more hsaid hmore
    obtain ⟨c, _, hchars, hc⟩ := hsaid.begins
    rw [hchars] at hmore
    obtain ⟨rfl, -⟩ := List.cons.inj hmore
    exact hc (by decide)
  cases hlaid with
  | done hblanks =>
      rw [← List.append_nil text] at htext
      cases hskip hblanks htext
  | blank hblanks => cases hskip hblanks htext
  | line hblanks =>
      obtain ⟨_, _, hsaid, -⟩ := List.forall₂_cons_left_iff.1 hlines
      exact hbegins hsaid (hskip hblanks htext)
  | last hblanks =>
      obtain ⟨_, _, hsaid, -⟩ := List.forall₂_cons_left_iff.1 hlines
      refine @hbegins _ _ [] hsaid ?_
      rw [List.append_nil]
      exact hskip hblanks htext

end

end AccessPolicy.Toml
