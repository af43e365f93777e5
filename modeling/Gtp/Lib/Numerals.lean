/-
# Numbers as text

Decimal numerals as a formatter writes them and a strict parser reads them back: unsigned integers
with a bound, decimal fractions with an optional exponent, whose value is the exact rational, and
hexadecimal integers.  A text is the list of its characters.

* `parseUnsigned_toDigits` and `parseHex_hexDigits`: an integer comes back as it was, if it is below
  the bound.
* `parseNumber_fixed`: a number in fixed notation comes back as the number that its digits say,
  however many of them are kept.
* `parseDecimal_fixedDecimal`: a value with a sign of its own comes back rounded, its sign kept, and
  a second formatting writes the same digits (`fixedDecimal_rounded`).
* `exists_fields_iff`: splitting a joined line finds the fields that were joined, as long as no
  field has the separator inside.

The parsers are those of Rust's standard library on the texts that occur: no blanks, no underscores,
a sign in front, `inf` and `nan` in any case of letters.  Rounding is to the nearest, half to even,
of the exact value; that a binary floating point number is not the decimal it is written as plays no
role, since values are rationals here.
-/
import Mathlib.Algebra.Order.Floor.Semifield
import Mathlib.Data.List.TakeWhile
import Mathlib.Data.Rat.Floor
import Mathlib.Tactic.FieldSimp

namespace Gtp

namespace Numerals

/-- A text, as the list of its characters. -/
abbrev Text := List Char

/-! ## 1. Unsigned integers -/

/-- The value of a text that is digits and nothing else, at least one of them. -/
def digits? (s : Text) : Option Nat :=
  if s ≠ [] ∧ s.all Char.isDigit then some (Nat.ofDigitChars 10 s 0) else none

def stripPlus : Text → Text
  | '+' :: rest => rest
  | s => s

/-- An unsigned integer below `bound`, with an optional plus sign. -/
def parseUnsigned (bound : Nat) (s : Text) : Option Nat :=
  (digits? (stripPlus s)).filter fun n => decide (n < bound)

theorem all_toDigits (n : Nat) : (Nat.toDigits 10 n).all Char.isDigit = true :=
  List.all_eq_true.mpr fun _ hc => Nat.isDigit_of_mem_toDigits (by decide) (by decide) hc

theorem digits?_toDigits (n : Nat) : digits? (Nat.toDigits 10 n) = some n := by
  rw [digits?, if_pos ⟨Nat.toDigits_ne_nil, all_toDigits n⟩, Nat.ofDigitChars_ten_toDigits]

theorem not_mem_toDigits {c : Char} (hc : c.isDigit = false) (n : Nat) :
    c ∉ Nat.toDigits 10 n := by
  intro hmem
  rw [List.all_eq_true.mp (all_toDigits n) c hmem] at hc
  cases hc

theorem toDigits_ne_cons {c : Char} (hc : c.isDigit = false) (n : Nat) (rest : Text) :
    Nat.toDigits 10 n ≠ c :: rest :=
  fun h => not_mem_toDigits hc n (h ▸ List.mem_cons_self)

theorem parseUnsigned_toDigits {bound n : Nat} (h : n < bound) :
    parseUnsigned bound (Nat.toDigits 10 n) = some n := by
  have hsign : stripPlus (Nat.toDigits 10 n) = Nat.toDigits 10 n := by
    unfold stripPlus
    split
    · rename_i rest heq
      exact absurd heq (toDigits_ne_cons (by decide) n rest)
    · rfl
  rw [parseUnsigned, hsign, digits?_toDigits]
  simp [h]

/-! ## 2. Decimal fractions -/

/-- A floating point value, the finite ones exact. -/
inductive F64 where
  | finite (value : ℚ)
  | inf (negative : Bool)
  | nan
  deriving DecidableEq, Repr

/-- The exponent behind a number: nothing, or `e` with a signed integer. -/
def parseExponent : Text → Option Int
  | [] => some 0
  | c :: rest =>
    if c = 'e' ∨ c = 'E' then
      match rest with
      | '-' :: ds => (digits? ds).map fun n => -(n : Int)
      | '+' :: ds => (digits? ds).map fun n => (n : Int)
      | ds => (digits? ds).map fun n => (n : Int)
    else none

/-- A number without its sign: digits, with a point among, before or behind them, and an exponent.
There is at least one digit. -/
def parseNumber (s : Text) : Option ℚ :=
  let (int, rest) := s.span Char.isDigit
  let (frac, rest) := match rest with
    | '.' :: behind => behind.span Char.isDigit
    | _ => ([], rest)
  if int = [] ∧ frac = [] then none
  else (parseExponent rest).map fun e =>
    (Nat.ofDigitChars 10 (int ++ frac) 0 : ℚ) * 10 ^ (e - (frac.length : Int))

/-- The names of the values that are not numbers, in any case of letters. -/
def parseInfNan (negative : Bool) (s : Text) : Option F64 :=
  let s := s.map Char.toLower
  if s = "inf".toList ∨ s = "infinity".toList then some (.inf negative)
  else if s = "nan".toList then some .nan
  else none

/-- The number behind a sign. -/
def parseSigned (negative : Bool) (s : Text) : Option F64 :=
  match parseNumber s with
  | some q => some (.finite (if negative then -q else q))
  | none => parseInfNan negative s

/-- A floating point number: a sign, and a number or a name. -/
def parseF64 : Text → Option F64
  | '-' :: s => parseSigned true s
  | '+' :: s => parseSigned false s
  | s => parseSigned false s

/-! ## 3. Fixed notation -/

/-- The last `width` digits of `n`. -/
def padded : Nat → Nat → Text
  | 0, _ => []
  | width + 1, n => padded width (n / 10) ++ [(n % 10).digitChar]

/-- Rounding to the nearest integer, half to even, of what is not negative. -/
def roundHalfEven (q : ℚ) : Nat :=
  let low := ⌊q⌋₊
  let rest := q - low
  if rest < 1 / 2 then low
  else if 1 / 2 < rest then low + 1
  else if low % 2 = 0 then low
  else low + 1

/-- A number with `width` digits behind the point. -/
def fixed (width : Nat) (q : ℚ) : Text :=
  let scaled := roundHalfEven (|q| * 10 ^ width)
  (if q < 0 then ['-'] else []) ++ Nat.toDigits 10 (scaled / 10 ^ width) ++
    '.' :: padded width scaled

/-- A floating point value with `width` digits behind the point. -/
def fixedF64 (width : Nat) : F64 → Text
  | .finite q => fixed width q
  | .inf negative => if negative then "-inf".toList else "inf".toList
  | .nan => "NaN".toList

theorem length_padded (width n : Nat) : (padded width n).length = width := by
  induction width generalizing n with
  | zero => rfl
  | succ width ih => rw [padded, List.length_append, ih, List.length_singleton]

theorem all_padded (width n : Nat) : (padded width n).all Char.isDigit = true := by
  induction width generalizing n with
  | zero => rfl
  | succ width ih =>
    have hdigit : ((n % 10).digitChar).isDigit = true := by
      rw [Nat.isDigit_digitChar]
      exact decide_eq_true (Nat.mod_lt _ (by decide))
    rw [padded, List.all_append, ih, List.all_cons, hdigit]
    rfl

theorem ofDigitChars_padded (width n : Nat) :
    Nat.ofDigitChars 10 (padded width n) 0 = n % 10 ^ width := by
  induction width generalizing n with
  | zero => simp [padded, Nat.mod_one]
  | succ width ih =>
    rw [padded, Nat.ofDigitChars_append, ih,
      Nat.ofDigitChars_cons_digitChar_of_lt_ten (Nat.mod_lt _ (by decide)), Nat.ofDigitChars_nil,
      Nat.pow_succ', Nat.mod_mul]
    exact Nat.add_comm _ _

/-- The first digits of a number are the digits of what division leaves of it. -/
theorem take_padded (width more n : Nat) :
    (padded (width + more) n).take width = padded width (n / 10 ^ more) := by
  induction more generalizing n with
  | zero =>
    rw [Nat.pow_zero, Nat.div_one]
    exact List.take_of_length_le (length_padded width n).le
  | succ more ih =>
    have hlen : width ≤ (padded (width + more) (n / 10)).length := by
      rw [length_padded]
      exact Nat.le_add_right _ _
    rw [show width + (more + 1) = (width + more) + 1 from rfl, padded,
      List.take_append_of_le_length hlen, ih, Nat.div_div_eq_div_mul, Nat.pow_succ']

/-- An integer is not rounded. -/
theorem roundHalfEven_natCast (n : Nat) : roundHalfEven n = n := by
  unfold roundHalfEven
  simp

/-- A multiple of the last digit, in fixed notation. -/
theorem fixed_div (width k : Nat) :
    fixed width ((k : ℚ) / 10 ^ width) =
      Nat.toDigits 10 (k / 10 ^ width) ++ '.' :: padded width k := by
  have hpos : (0 : ℚ) < 10 ^ width := by positivity
  have hnonneg : (0 : ℚ) ≤ (k : ℚ) / 10 ^ width := by positivity
  have hscaled : |(k : ℚ) / 10 ^ width| * 10 ^ width = k := by
    rw [abs_of_nonneg hnonneg]
    field_simp
  rw [fixed, hscaled, roundHalfEven_natCast, if_neg (not_lt.mpr hnonneg)]
  rfl

/-- **Fixed notation is read back**: as what its digits say. -/
theorem parseNumber_fixed {int frac : Text} (hint : int.all Char.isDigit = true) (hne : int ≠ [])
    (hfrac : frac.all Char.isDigit = true) :
    parseNumber (int ++ '.' :: frac) =
      some ((Nat.ofDigitChars 10 (int ++ frac) 0 : ℚ) / 10 ^ frac.length) := by
  have hspan : (int ++ '.' :: frac).span Char.isDigit = (int, '.' :: frac) := by
    have hall := List.all_eq_true.mp hint
    rw [List.span_eq_takeWhile_dropWhile, List.takeWhile_append_of_pos hall,
      List.dropWhile_append_of_pos hall]
    simp [show '.'.isDigit = false from by decide]
  have hspan' : frac.span Char.isDigit = (frac, []) := by
    have hall := List.all_eq_true.mp hfrac
    rw [List.span_eq_takeWhile_dropWhile, List.takeWhile_eq_self_iff.mpr hall,
      List.dropWhile_eq_nil_iff.mpr hall]
  unfold parseNumber
  rw [hspan]
  simp only [hspan', if_neg (fun h : int = [] ∧ frac = [] => hne h.1), parseExponent,
    Option.map_some, zero_sub, zpow_neg, zpow_natCast, div_eq_mul_inv]

/-! ## 4. Fields between separators -/

theorem intercalate_cons_splitOn (c : Char) (lead rest : Text) :
    [c].intercalate (lead :: rest.splitOn c) = lead ++ c :: rest := by
  rw [List.intercalate_cons_of_ne_nil (List.splitOn_ne_nil c rest), List.intercalate_splitOn,
    List.append_assoc, List.singleton_append]

theorem not_mem_splitOn {c : Char} {s part : Text} (h : part ∈ s.splitOn c) : c ∉ part := by
  induction s generalizing part with
  | nil =>
    obtain rfl : part = [] := by simpa [List.splitOn] using h
    exact List.not_mem_nil
  | cons x s ih =>
    rw [List.splitOn_cons_eq_if_modifyHead] at h
    split at h
    · rcases List.mem_cons.mp h with rfl | h
      · exact List.not_mem_nil
      · exact ih h
    · rename_i hne
      obtain ⟨first, others, hsplit⟩ := List.exists_cons_of_ne_nil (List.splitOn_ne_nil c s)
      rw [hsplit, List.modifyHead_cons] at h
      rcases List.mem_cons.mp h with rfl | h
      · rw [List.mem_cons, not_or]
        exact ⟨fun heq => hne (by simp [heq]), ih (hsplit ▸ List.mem_cons_self)⟩
      · exact ih (hsplit ▸ List.mem_cons_of_mem first h)

/-- **Splitting finds the fields**: behind its lead, a line has the ones that were joined. -/
theorem exists_fields_iff {c : Char} {lead line : Text} {P : List Text → Prop} (hP : ¬ P []) :
    (∃ fields, line = [c].intercalate (lead :: fields) ∧ (∀ s ∈ fields, c ∉ s) ∧ P fields) ↔
      ∃ rest, line = lead ++ c :: rest ∧ P (rest.splitOn c) := by
  constructor
  · rintro ⟨fields, rfl, hfree, hfields⟩
    have hne : fields ≠ [] := fun hnil => hP (hnil ▸ hfields)
    refine ⟨[c].intercalate fields, ?_, ?_⟩
    · rw [List.intercalate_cons_of_ne_nil hne, List.append_assoc, List.singleton_append]
    · rw [List.splitOn_intercalate c hfree hne]
      exact hfields
  · rintro ⟨rest, rfl, hfields⟩
    exact ⟨rest.splitOn c, (intercalate_cons_splitOn c lead rest).symm,
      fun s hs => not_mem_splitOn hs, hfields⟩

/-- A separator is in a joined text only if it is in a field or joins them. -/
theorem not_mem_intercalate {c sep : Char} (hsep : c ≠ sep) {fields : List Text}
    (h : ∀ s ∈ fields, c ∉ s) : c ∉ [sep].intercalate fields := by
  induction fields with
  | nil => exact List.not_mem_nil
  | cons s rest ih =>
    rw [List.forall_mem_cons] at h
    by_cases hnil : rest = []
    · subst hnil
      rw [List.intercalate_singleton]
      exact h.1
    · rw [List.intercalate_cons_of_ne_nil hnil, List.mem_append, List.mem_append,
        List.mem_singleton]
      rintro ((hmem | hmem) | hmem)
      · exact h.1 hmem
      · exact hsep hmem
      · exact ih h.2 hmem

theorem intercalate_concat (sep : Char) {fields : List Text} (hne : fields ≠ []) (last : Text) :
    [sep].intercalate (fields ++ [last]) = [sep].intercalate fields ++ sep :: last := by
  induction fields with
  | nil => exact absurd rfl hne
  | cons s rest ih =>
    by_cases hnil : rest = []
    · subst hnil
      rw [List.singleton_append, List.intercalate_cons_of_ne_nil (List.cons_ne_nil _ _),
        List.intercalate_singleton, List.intercalate_singleton, List.append_assoc,
        List.singleton_append]
    · rw [List.cons_append, List.intercalate_cons_of_ne_nil (by simp), ih hnil,
        List.intercalate_cons_of_ne_nil hnil]
      simp only [List.append_assoc]

/-- Fields that are pushed one by one behind a separator are joined. -/
theorem foldl_push {α : Type*} (sep : Char) (text : α → Text) (items : List α)
    {fields : List Text} (hne : fields ≠ []) :
    items.foldl (fun s x => s ++ sep :: text x) ([sep].intercalate fields) =
      [sep].intercalate (fields ++ items.map text) := by
  induction items generalizing fields with
  | nil => rw [List.map_nil, List.append_nil, List.foldl_nil]
  | cons x items ih =>
    rw [List.foldl_cons, ← intercalate_concat sep hne, ih (by simp), List.map_cons,
      List.append_assoc, List.singleton_append]

/-! ## 5. Hexadecimal integers -/

/-- The value of a hexadecimal digit, in either case. -/
def hexValue (c : Char) : Option Nat :=
  if c.isDigit then some (c.toNat - '0'.toNat)
  else if 'a' ≤ c ∧ c ≤ 'f' then some (c.toNat - 'a'.toNat + 10)
  else if 'A' ≤ c ∧ c ≤ 'F' then some (c.toNat - 'A'.toNat + 10)
  else none

/-- A number in hexadecimal digits, in upper case and without leading zeros. -/
def hexDigits (n : Nat) : Text := (Nat.toDigits 16 n).map Char.toUpper

/-- The value of a text that is hexadecimal digits and nothing else, at least one of them. -/
def hex? (s : Text) : Option Nat :=
  if s = [] then none else s.foldlM (fun acc c => (hexValue c).map fun d => acc * 16 + d) 0

/-- An unsigned hexadecimal integer below `bound`, with an optional plus sign. -/
def parseHex (bound : Nat) (s : Text) : Option Nat :=
  (hex? (stripPlus s)).filter fun n => decide (n < bound)

theorem hexValue_digitChar {d : Nat} (h : d < 16) : hexValue d.digitChar.toUpper = some d := by
  revert d
  decide

theorem hexDigits_eq (n : Nat) :
    hexDigits n = if n < 16 then [n.digitChar.toUpper]
      else hexDigits (n / 16) ++ [(n % 16).digitChar.toUpper] := by
  rw [hexDigits, Nat.toDigits_eq_if (by decide)]
  split
  · rfl
  · rw [List.map_append]
    rfl

theorem hexDigits_ne_nil (n : Nat) : hexDigits n ≠ [] := by
  rw [hexDigits, ne_eq, List.map_eq_nil_iff]
  exact Nat.toDigits_ne_nil

theorem hexValue_of_mem {c : Char} {n : Nat} (h : c ∈ hexDigits n) : (hexValue c).isSome := by
  induction n using Nat.strong_induction_on with
  | _ n ih =>
    rw [hexDigits_eq] at h
    split at h
    · rename_i hn
      rw [List.mem_singleton.mp h, hexValue_digitChar hn]
      rfl
    · rcases List.mem_append.mp h with h | h
      · exact ih (n / 16) (Nat.div_lt_self (by omega) (by decide)) h
      · rw [List.mem_singleton.mp h, hexValue_digitChar (Nat.mod_lt _ (by decide))]
        rfl

theorem not_mem_hexDigits {c : Char} (hc : hexValue c = none) (n : Nat) : c ∉ hexDigits n := by
  intro hmem
  have h := hexValue_of_mem hmem
  rw [hc] at h
  cases h

theorem hex?_hexDigits (n : Nat) : hex? (hexDigits n) = some n := by
  rw [hex?, if_neg (hexDigits_ne_nil n)]
  induction n using Nat.strong_induction_on with
  | _ n ih =>
    rw [hexDigits_eq]
    split
    · rename_i hn
      simp [hexValue_digitChar hn]
    · have hdigit := hexValue_digitChar (Nat.mod_lt n (show 0 < 16 by decide))
      rw [List.foldlM_append, ih (n / 16) (Nat.div_lt_self (by omega) (by decide))]
      simp [hdigit, Nat.div_add_mod']

theorem parseHex_hexDigits {bound n : Nat} (h : n < bound) :
    parseHex bound (hexDigits n) = some n := by
  have hsign : stripPlus (hexDigits n) = hexDigits n := by
    unfold stripPlus
    split
    · rename_i rest heq
      exact absurd (heq ▸ List.mem_cons_self) (not_mem_hexDigits (c := '+') (by decide) n)
    · rfl
  rw [parseHex, hsign, hex?_hexDigits]
  simp [h]

/-! ## 6. Numbers with a sign of their own -/

/-- A floating point value by sign and magnitude, the finite ones exact.  Zero has a sign too, and
its text shows it. -/
inductive Decimal where
  | finite (negative : Bool) (magnitude : ℚ≥0)
  | inf (negative : Bool)
  | nan
  deriving DecidableEq

/-- The sign in front of a number. -/
def signText (negative : Bool) : Text := if negative then ['-'] else []

/-- A value with `width` digits behind the point. -/
def fixedDecimal (width : Nat) : Decimal → Text
  | .finite negative magnitude => signText negative ++ fixed width magnitude
  | .inf negative => signText negative ++ "inf".toList
  | .nan => "NaN".toList

/-- The number or the name behind a sign. -/
def parseMagnitude (negative : Bool) (s : Text) : Option Decimal :=
  match parseNumber s with
  | some q => some (.finite negative q.toNNRat)
  | none =>
    match parseInfNan negative s with
    | some (.inf negative) => some (.inf negative)
    | some .nan => some .nan
    | _ => none

/-- A floating point number, its sign kept. -/
def parseDecimal : Text → Option Decimal
  | '-' :: s => parseMagnitude true s
  | '+' :: s => parseMagnitude false s
  | s => parseMagnitude false s

/-- A value rounded to `width` digits behind the point. -/
def Decimal.rounded (width : Nat) : Decimal → Decimal
  | finite negative magnitude =>
    finite negative ((roundHalfEven (magnitude * 10 ^ width) : ℚ≥0) / 10 ^ width)
  | inf negative => inf negative
  | nan => nan

/-- The digits of a number that is not negative. -/
theorem fixed_nonneg (width : Nat) (m : ℚ≥0) :
    fixed width m = Nat.toDigits 10 (roundHalfEven (m * 10 ^ width) / 10 ^ width) ++
      '.' :: padded width (roundHalfEven (m * 10 ^ width)) := by
  rw [fixed, abs_of_nonneg m.coe_nonneg, if_neg (not_lt.mpr m.coe_nonneg)]
  rfl

/-- The digits on both sides of the point are those of the scaled number. -/
theorem ofDigitChars_fixed (width k : Nat) :
    Nat.ofDigitChars 10 (Nat.toDigits 10 (k / 10 ^ width) ++ padded width k) 0 = k := by
  rw [Nat.ofDigitChars_append, Nat.ofDigitChars_ten_toDigits,
    Nat.ofDigitChars_eq_ofDigitChars_zero, ofDigitChars_padded, length_padded]
  exact Nat.div_add_mod _ _

theorem parseNumber_fixed_nonneg (width : Nat) (m : ℚ≥0) :
    parseNumber (fixed width m) =
      some ((roundHalfEven (m * 10 ^ width) : ℚ) / 10 ^ width) := by
  rw [fixed_nonneg, parseNumber_fixed (all_toDigits _) Nat.toDigits_ne_nil (all_padded _ _),
    ofDigitChars_fixed, length_padded]

/-- **Rounded once, rounded for good**: a second formatting writes the same digits. -/
theorem fixedDecimal_rounded (width : Nat) (v : Decimal) :
    fixedDecimal width (v.rounded width) = fixedDecimal width v := by
  cases v with
  | finite negative m =>
    simp only [Decimal.rounded, fixedDecimal, NNRat.cast_div, NNRat.cast_natCast, NNRat.cast_pow,
      NNRat.cast_ofNat]
    rw [fixed_div, fixed_nonneg]
  | inf negative => rfl
  | nan => rfl

/-- A text that starts with a digit has no sign. -/
theorem parseDecimal_digit {s : Text} (h : ∀ c ∈ s.head?, c.isDigit = true) :
    parseDecimal s = parseMagnitude false s := by
  unfold parseDecimal
  split
  · exact absurd (h '-' rfl) (by decide)
  · exact absurd (h '+' rfl) (by decide)
  · rfl

theorem head?_fixed {width : Nat} {m : ℚ≥0} :
    ∀ c ∈ (fixed width m).head?, c.isDigit = true := by
  intro c hc
  rw [fixed_nonneg, List.head?_append_of_ne_nil _ Nat.toDigits_ne_nil] at hc
  exact List.all_eq_true.mp (all_toDigits _) c (List.mem_of_mem_head? hc)

/-- **What is written is read back**, as the rounded value with its sign. -/
theorem parseDecimal_fixedDecimal (width : Nat) (v : Decimal) :
    parseDecimal (fixedDecimal width v) = some (v.rounded width) := by
  cases v with
  | finite negative m =>
    have hmagnitude : ∀ sign, parseMagnitude sign (fixed width m) =
        some ((Decimal.finite sign m).rounded width) := by
      intro sign
      have hvalue : ((roundHalfEven (m * 10 ^ width) : ℚ) / 10 ^ width).toNNRat =
          (roundHalfEven (m * 10 ^ width) : ℚ≥0) / 10 ^ width := by
        rw [← NNRat.toNNRat_coe ((roundHalfEven (m * 10 ^ width) : ℚ≥0) / 10 ^ width)]
        congr 1
      rw [parseMagnitude, parseNumber_fixed_nonneg]
      simp only [hvalue]
      rfl
    cases negative with
    | true => exact hmagnitude true
    | false =>
      change parseDecimal (fixed width m) = _
      rw [parseDecimal_digit head?_fixed, hmagnitude]
  | inf negative => cases negative <;> rfl
  | nan => rfl

/-- A dash alone is no number. -/
theorem fixedDecimal_ne_dash (width : Nat) (v : Decimal) : fixedDecimal width v ≠ ['-'] := by
  intro h
  have hread := parseDecimal_fixedDecimal width v
  rw [h, show parseDecimal ['-'] = none by decide] at hread
  cases hread

theorem mem_fixedDecimal {width : Nat} {v : Decimal} {c : Char} (h : c ∈ fixedDecimal width v) :
    c.isDigit = true ∨ c ∈ "-.infNa".toList := by
  have hsign : ∀ negative, c ∈ signText negative → c = '-' := by
    intro negative hc
    cases negative with
    | true => exact List.mem_singleton.mp hc
    | false => cases hc
  cases v with
  | finite negative m =>
    rw [fixedDecimal, fixed_nonneg, List.mem_append, List.mem_append, List.mem_cons] at h
    rcases h with h | h | h | h
    · exact Or.inr (hsign _ h ▸ by decide)
    · exact Or.inl (List.all_eq_true.mp (all_toDigits _) c h)
    · exact Or.inr (h ▸ by decide)
    · exact Or.inl (List.all_eq_true.mp (all_padded _ _) c h)
  | inf negative =>
    rcases List.mem_append.mp h with h | h
    · exact Or.inr (hsign _ h ▸ by decide)
    · exact Or.inr ((by decide : "inf".toList ⊆ "-.infNa".toList) h)
  | nan => exact Or.inr ((by decide : "NaN".toList ⊆ "-.infNa".toList) h)

end Numerals

end Gtp
