/-
# Deficit round robin

`n` tiers stand in a cycle with a cursor.  A turn visits the first busy tier from the cursor on.
The tier is opened, which gives it its quantum (up to `cap` quanta in all), and stays open while it
is served; what it sends is paid from its deficit.  When it is passed it is closed, and the cursor
goes on to the next one.

Which tiers are busy and what they want to send is left to the environment, so nothing here is about
queues: a `Turn` is a relation between the marks before and after.  Three things follow.

* A tier that is passed below the cap is closer to it than before (`Turn.shortfall_lt`).  So it is
  not passed for ever.
* Two tiers that are busy at every turn and are passed only at `most` bytes or less have been opened
  equally often, up to one opening of the tier that comes first (`Even.turn`).  What they have sent
  differs, counted in quanta, by at most one quantum and what they may save up (`Even.difference`).
* While a busy tier is passed below the cap only, what another one may send until it is served is
  bounded: `Turn.credit_le` is a potential, of at most `2 * cap + 1` quanta (`Marks.credit_le`).
-/
import Mathlib.Algebra.BigOperators.Group.Finset.Basic
import Mathlib.Algebra.Order.BigOperators.Group.Finset
import Mathlib.Algebra.Order.Field.Rat
import Mathlib.Data.Fintype.Card
import Mathlib.Tactic.FieldSimp
import Mathlib.Tactic.Linarith

namespace RoundRobin

variable {n : Nat}

/-! ## 1. The cycle -/

/-- The tier behind `t`. -/
def next (t : Fin n) : Fin n :=
  if h : t.val + 1 < n then ⟨t.val + 1, h⟩ else ⟨0, Nat.zero_lt_of_lt t.isLt⟩

/-- How many tiers lie from the cursor up to `t`. -/
def distance (cursor t : Fin n) : Nat :=
  if cursor.val ≤ t.val then t.val - cursor.val else n + t.val - cursor.val

/-- Seen from the cursor, `a` comes before `b`. -/
def Ahead (cursor a b : Fin n) : Prop := distance cursor a < distance cursor b

instance (cursor a b : Fin n) : Decidable (Ahead cursor a b) := inferInstanceAs (Decidable (_ < _))

section Cycle

variable {cursor t i a b : Fin n}

theorem distance_lt : distance cursor t < n := by
  have := cursor.isLt
  have := t.isLt
  unfold distance
  split <;> omega

theorem distance_self (t : Fin n) : distance t t = 0 := by
  simp [distance]

theorem distance_eq_zero (h : distance cursor t = 0) : t = cursor := by
  have := cursor.isLt
  refine Fin.ext ?_
  unfold distance at h
  split at h <;> omega

theorem distance_of_le (h : distance cursor i ≤ distance cursor t) :
    distance i t = distance cursor t - distance cursor i := by
  have := i.isLt
  have := t.isLt
  unfold distance at h ⊢
  split at h <;> split at h <;> split <;> omega

theorem distance_next (h : t ≠ i) : distance (next i) t + 1 = distance i t := by
  have hne : t.val ≠ i.val := fun heq => h (Fin.ext heq)
  have := t.isLt
  have := i.isLt
  unfold distance next
  split
  · dsimp only
    split <;> split <;> omega
  · dsimp only
    split <;> split <;> omega

/-- A tier that the cursor has just left is the last one. -/
theorem distance_next_self (i : Fin n) : distance (next i) i + 1 = n := by
  have := i.isLt
  unfold distance next
  split
  · dsimp only
    split <;> omega
  · dsimp only
    split <;> omega

/-- Moving the cursor to a tier that does not come behind either leaves their order. -/
theorem ahead_move (ha : distance cursor i ≤ distance cursor a)
    (hb : distance cursor i ≤ distance cursor b) : Ahead i a b ↔ Ahead cursor a b := by
  unfold Ahead
  rw [distance_of_le ha, distance_of_le hb]
  omega

theorem ahead_next (ha : distance cursor i ≤ distance cursor a)
    (hb : distance cursor i ≤ distance cursor b) (hia : a ≠ i) (hib : b ≠ i) :
    Ahead (next i) a b ↔ Ahead cursor a b := by
  rw [← ahead_move ha hb]
  have hnexta := distance_next hia
  have hnextb := distance_next hib
  unfold Ahead
  omega

theorem not_ahead_next (a b : Fin n) : ¬ Ahead (next a) a b := by
  have hself := distance_next_self a
  have hlt := @distance_lt n (next a) b
  unfold Ahead
  omega

theorem ahead_next_self (h : a ≠ b) : Ahead (next b) a b := by
  have hself := distance_next_self b
  have hnext := distance_next h
  have hlt := @distance_lt n b a
  unfold Ahead
  omega

/-- The tier that is visited comes before every other busy one. -/
theorem ahead_of_le (h : distance cursor a ≤ distance cursor b) (hab : a ≠ b) :
    Ahead cursor a b := by
  refine Nat.lt_of_le_of_ne h fun heq => hab ?_
  have hzero : distance a b = 0 := by
    rw [distance_of_le h, heq, Nat.sub_self]
  exact (distance_eq_zero hzero).symm

theorem ahead_self (h : a ≠ b) : Ahead a a b :=
  ahead_of_le (by rw [distance_self]; exact Nat.zero_le _) h

end Cycle

/-! ## 2. Turns -/

structure Marks (n : Nat) where
  deficit : Fin n → Nat
  opened : Fin n → Bool
  cursor : Fin n

/-- What the tier can pay when it is visited. -/
def Marks.purse (m : Marks n) (quantum : Fin n → Nat) (cap : Nat) (t : Fin n) : Nat :=
  if m.opened t then m.deficit t else min (m.deficit t + quantum t) (quantum t * cap)

theorem Marks.purse_congr {m m' : Marks n} {quantum : Fin n → Nat} {cap : Nat} {t : Fin n}
    (hdeficit : m'.deficit t = m.deficit t) (hopened : m'.opened t = m.opened t) :
    m'.purse quantum cap t = m.purse quantum cap t := by
  rw [purse, purse, hdeficit, hopened]

/-- **A turn**: the tier `idx` is visited and sends some bytes, or is passed.  Nothing is said of
the tiers that are not busy. -/
structure Turn (quantum : Fin n → Nat) (cap : Nat) (busy : Fin n → Prop) (m : Marks n) (idx : Fin n)
    (sent : Option Nat) (m' : Marks n) : Prop where
  visited : busy idx
  first : ∀ t, busy t → distance m.cursor idx ≤ distance m.cursor t
  others : ∀ t, t ≠ idx → busy t → m'.deficit t = m.deficit t ∧ m'.opened t = m.opened t
  served : ∀ bytes, sent = some bytes → bytes ≤ m.purse quantum cap idx ∧
    m'.deficit idx = m.purse quantum cap idx - bytes ∧ m'.opened idx = true ∧ m'.cursor = idx
  passed : sent = none → m'.deficit idx = m.purse quantum cap idx ∧ m'.opened idx = false ∧
    m'.cursor = next idx

variable {quantum : Fin n → Nat} {cap : Nat} {busy : Fin n → Prop} {m m' : Marks n} {idx : Fin n}
  {sent : Option Nat}

/-! ## 3. A tier is not passed for ever -/

/-- How far a tier is from the cap, in quanta, with half a quantum for being open. -/
def Marks.short (m : Marks n) (quantum : Fin n → Nat) (cap : Nat) (t : Fin n) : Nat :=
  2 * (cap - m.deficit t / quantum t) + (m.opened t).toNat

/-- How far the busy tiers are from the cap. -/
def Marks.shortfall (m : Marks n) (quantum : Fin n → Nat) (cap : Nat) (busy : Fin n → Prop)
    [DecidablePred busy] : Nat :=
  ∑ t, if busy t then m.short quantum cap t else 0

theorem Marks.shortfall_le (m : Marks n) (quantum : Fin n → Nat) (cap : Nat) (busy : Fin n → Prop)
    [DecidablePred busy] : m.shortfall quantum cap busy ≤ n * (2 * cap + 1) := by
  have hone : ∀ t ∈ Finset.univ, (if busy t then m.short quantum cap t else 0) ≤ 2 * cap + 1 := by
    intro t _
    have hopen := Bool.toNat_le (m.opened t)
    unfold short
    generalize m.deficit t / quantum t = full
    split <;> omega
  have hsum := Finset.sum_le_card_nsmul Finset.univ _ _ hone
  rw [Finset.card_univ, Fintype.card_fin] at hsum
  exact hsum

theorem Marks.shortfall_congr {m m' : Marks n} {quantum : Fin n → Nat} {cap : Nat}
    {busy busy' : Fin n → Prop} [DecidablePred busy] [DecidablePred busy']
    (hbusy : ∀ t, busy' t ↔ busy t) (hshort : ∀ t, busy t → m'.short quantum cap t =
      m.short quantum cap t) : m'.shortfall quantum cap busy' = m.shortfall quantum cap busy := by
  refine Finset.sum_congr rfl fun t _ => ?_
  by_cases ht : busy t
  · rw [if_pos ht, if_pos ((hbusy t).mpr ht), hshort t ht]
  · rw [if_neg ht, if_neg fun ht' => ht ((hbusy t).mp ht')]

theorem Turn.short_lt (h : Turn quantum cap busy m idx none m') (hpos : 0 < quantum idx)
    (hbelow : m.purse quantum cap idx < quantum idx * cap) :
    m'.short quantum cap idx < m.short quantum cap idx := by
  obtain ⟨hdeficit, hclosed, -⟩ := h.passed rfl
  unfold Marks.short
  rw [hdeficit, hclosed]
  unfold Marks.purse at hbelow ⊢
  cases hopen : m.opened idx with
  | true =>
    rw [if_pos rfl]
    exact Nat.lt_succ_self _
  | false =>
    rw [hopen, if_neg Bool.false_ne_true] at hbelow
    have hsum : m.deficit idx + quantum idx < quantum idx * cap := by omega
    have hlt : m.deficit idx / quantum idx + 1 < cap := by
      rw [← Nat.add_div_right _ hpos]
      exact Nat.div_lt_of_lt_mul hsum
    rw [if_neg Bool.false_ne_true, Nat.min_eq_left hsum.le, Nat.add_div_right _ hpos]
    change 2 * (cap - (m.deficit idx / quantum idx + 1)) < 2 * (cap - m.deficit idx / quantum idx)
    omega

/-- **Passing a tier below the cap brings the busy tiers closer to it.** -/
theorem Turn.shortfall_lt [DecidablePred busy] (h : Turn quantum cap busy m idx none m')
    (hpos : 0 < quantum idx) (hbelow : m.purse quantum cap idx < quantum idx * cap) :
    m'.shortfall quantum cap busy < m.shortfall quantum cap busy := by
  refine Finset.sum_lt_sum (fun t _ => ?_) ⟨idx, Finset.mem_univ idx, ?_⟩
  · by_cases hbusy : busy t
    · rw [if_pos hbusy, if_pos hbusy]
      by_cases ht : t = idx
      · exact ht ▸ (h.short_lt hpos hbelow).le
      · obtain ⟨hdeficit, hopened⟩ := h.others t ht hbusy
        rw [Marks.short, Marks.short, hdeficit, hopened]
    · rw [if_neg hbusy, if_neg hbusy]
  · rw [if_pos h.visited, if_pos h.visited]
    exact h.short_lt hpos hbelow

/-! ## 4. Two tiers that are always busy -/

/-- The account of one tier: it was opened `opens` times and has sent `total` bytes. -/
structure Settled (quantum : Fin n → Nat) (most : Nat) (m : Marks n) (t : Fin n)
    (opens total : Nat) : Prop where
  account : total + m.deficit t = opens * quantum t
  atCursor : m.opened t = true → m.cursor = t
  closed : m.opened t = false → m.deficit t ≤ most
  bound : m.deficit t ≤ most + quantum t

/-- The bytes of a turn that are of tier `t`. -/
def sentBy (t idx : Fin n) (sent : Option Nat) : Nat := if idx = t then sent.getD 0 else 0

/-- The visit opens `t`. -/
def opening (m : Marks n) (t idx : Fin n) : Nat := if idx = t then (!m.opened t).toNat else 0

variable {most : Nat} {t : Fin n} {opens total : Nat}

/-- While nothing is lost to the cap, the tier has its deficit and a quantum if it is opened. -/
theorem Settled.purse_eq (h : Settled quantum most m t opens total)
    (hcap : most + quantum t ≤ quantum t * cap) :
    m.purse quantum cap t = m.deficit t + (!m.opened t).toNat * quantum t := by
  unfold Marks.purse
  cases hopen : m.opened t with
  | true => simp
  | false =>
    have hle := h.closed hopen
    rw [if_neg Bool.false_ne_true, Nat.min_eq_left (by omega)]
    simp

/-- **The account of a busy tier, after a turn.** -/
theorem Settled.turn (h : Settled quantum most m t opens total)
    (hcap : most + quantum t ≤ quantum t * cap)
    (hturn : Turn quantum cap busy m idx sent m') (hbusy : busy t)
    (hpassed : sent = none → idx = t → m.purse quantum cap t ≤ most) :
    Settled quantum most m' t (opens + opening m t idx) (total + sentBy t idx sent) := by
  by_cases hidx : idx = t
  · subst hidx
    have hpurse := h.purse_eq hcap
    have haccount := h.account
    have hopening : opening m idx idx = (!m.opened idx).toNat := if_pos rfl
    have hsent : sentBy idx idx sent = sent.getD 0 := if_pos rfl
    have hmul : (opens + (!m.opened idx).toNat) * quantum idx =
        opens * quantum idx + (!m.opened idx).toNat * quantum idx := Nat.add_mul _ _ _
    have hmost : m.purse quantum cap idx ≤ most + quantum idx := by
      rw [hpurse]
      cases hopen : m.opened idx with
      | true => simpa using h.bound
      | false => simpa using h.closed hopen
    rw [hopening, hsent]
    cases sent with
    | some bytes =>
      obtain ⟨hle, hdeficit, hopened, hcursor⟩ := hturn.served bytes rfl
      refine ⟨?_, fun _ => hcursor, fun hclosed => ?_, by omega⟩
      · rw [hmul, hdeficit, Option.getD_some]
        omega
      · rw [hopened] at hclosed
        cases hclosed
    | none =>
      obtain ⟨hdeficit, hclosed, -⟩ := hturn.passed rfl
      have hle := hpassed rfl rfl
      refine ⟨?_, fun hopened => ?_, fun _ => by omega, by omega⟩
      · rw [hmul, hdeficit, Option.getD_none]
        omega
      · rw [hclosed] at hopened
        cases hopened
  · -- another tier is visited, so this one is not open: it would have come first
    have hne : t ≠ idx := Ne.symm hidx
    obtain ⟨hdeficit, hopened⟩ := hturn.others t hne hbusy
    have hclosed : m.opened t = false := by
      refine Bool.eq_false_iff.mpr fun hopen => hidx ?_
      have hfirst := hturn.first t hbusy
      rw [h.atCursor hopen, distance_self] at hfirst
      exact distance_eq_zero (Nat.le_zero.mp hfirst)
    rw [opening, if_neg hidx, sentBy, if_neg hidx, Nat.add_zero, Nat.add_zero]
    refine ⟨?_, fun hopen => ?_, fun _ => ?_, ?_⟩
    · rw [hdeficit]
      exact h.account
    · rw [hopened, hclosed] at hopen
      cases hopen
    · rw [hdeficit]
      exact h.closed hclosed
    · rw [hdeficit]
      exact h.bound

/-- How often `a` was opened more than `b`: once, from the opening of `a` to that of `b`. -/
def lead (m : Marks n) (a b : Fin n) : Nat :=
  if Ahead m.cursor a b then (m.opened a).toNat else (!m.opened b).toNat

variable {a b : Fin n}

/-- **The lead, after a turn.** -/
theorem Turn.lead (hturn : Turn quantum cap busy m idx sent m') (ha : busy a) (hb : busy b)
    (hab : a ≠ b) (hopena : m.opened a = true → m.cursor = a)
    (hopenb : m.opened b = true → m.cursor = b) :
    RoundRobin.lead m' a b + opening m b idx = RoundRobin.lead m a b + opening m a idx := by
  have hfirsta := hturn.first a ha
  have hfirstb := hturn.first b hb
  by_cases hia : idx = a
  · subst hia
    have hahead : Ahead m.cursor idx b := ahead_of_le hfirstb hab
    obtain ⟨-, hopened⟩ := hturn.others b hab.symm hb
    have hclosed : m.opened b = false := by
      refine Bool.eq_false_iff.mpr fun hopen => ?_
      have hcursor := hopenb hopen
      unfold Ahead at hahead
      rw [hcursor, distance_self] at hahead
      exact Nat.not_lt_zero _ hahead
    rw [opening, if_neg hab, opening, if_pos rfl, RoundRobin.lead, RoundRobin.lead, if_pos hahead]
    cases sent with
    | some bytes =>
      obtain ⟨-, -, hopen, hcursor⟩ := hturn.served bytes rfl
      rw [hcursor, if_pos (ahead_self hab), hopen]
      cases m.opened idx <;> rfl
    | none =>
      obtain ⟨-, -, hcursor⟩ := hturn.passed rfl
      rw [hcursor, if_neg (not_ahead_next idx b), hopened, hclosed]
      cases m.opened idx <;> rfl
  · by_cases hib : idx = b
    · subst hib
      have hbehind : ¬ Ahead m.cursor a idx := Nat.not_lt.mpr hfirsta
      obtain ⟨-, hopened⟩ := hturn.others a hab ha
      have hclosed : m.opened a = false := by
        refine Bool.eq_false_iff.mpr fun hopen => hab ?_
        rw [hopena hopen, distance_self] at hfirsta
        exact (distance_eq_zero (Nat.le_zero.mp hfirsta)).symm
      rw [opening, if_pos rfl, opening, if_neg hia, RoundRobin.lead, RoundRobin.lead,
        if_neg hbehind]
      cases sent with
      | some bytes =>
        obtain ⟨-, -, hopen, hcursor⟩ := hturn.served bytes rfl
        rw [hcursor, if_neg (by rw [Ahead, distance_self]; exact Nat.not_lt_zero _), hopen]
        cases m.opened idx <;> rfl
      | none =>
        obtain ⟨-, -, hcursor⟩ := hturn.passed rfl
        rw [hcursor, if_pos (ahead_next_self hab), hopened, hclosed]
        cases m.opened idx <;> rfl
    · obtain ⟨-, hopeneda⟩ := hturn.others a (Ne.symm hia) ha
      obtain ⟨-, hopenedb⟩ := hturn.others b (Ne.symm hib) hb
      have hahead : Ahead m'.cursor a b ↔ Ahead m.cursor a b := by
        cases sent with
        | some bytes =>
          rw [(hturn.served bytes rfl).2.2.2]
          exact ahead_move hfirsta hfirstb
        | none =>
          rw [(hturn.passed rfl).2.2]
          exact ahead_next hfirsta hfirstb (Ne.symm hia) (Ne.symm hib)
      rw [opening, if_neg hib, opening, if_neg hia, RoundRobin.lead, RoundRobin.lead, hopeneda,
        hopenedb]
      simp only [hahead]

/-- The accounts of two tiers: `a`, which comes first, was opened as often as `b` or once more. -/
def Even (quantum : Fin n → Nat) (most : Nat) (m : Marks n) (a b : Fin n) (totalA totalB : Nat) :
    Prop :=
  ∃ opensA opensB, Settled quantum most m a opensA totalA ∧ Settled quantum most m b opensB totalB ∧
    opensA = opensB + lead m a b

variable {totalA totalB : Nat}

theorem even_start (hdeficit : ∀ t, m.deficit t = 0) (hopened : ∀ t, m.opened t = false)
    (h : Ahead m.cursor a b) : Even quantum most m a b 0 0 := by
  have hsettled : ∀ t, Settled quantum most m t 0 0 := by
    intro t
    refine ⟨?_, fun hopen => ?_, fun _ => ?_, ?_⟩
    · rw [hdeficit, Nat.zero_mul]
    · rw [hopened] at hopen
      cases hopen
    · rw [hdeficit]
      exact Nat.zero_le _
    · rw [hdeficit]
      exact Nat.zero_le _
  refine ⟨0, 0, hsettled a, hsettled b, ?_⟩
  rw [lead, if_pos h, hopened]
  rfl

/-- **The step.** -/
theorem Even.turn (h : Even quantum most m a b totalA totalB) (hab : a ≠ b)
    (hcapa : most + quantum a ≤ quantum a * cap) (hcapb : most + quantum b ≤ quantum b * cap)
    (hturn : Turn quantum cap busy m idx sent m') (ha : busy a) (hb : busy b)
    (hpassed : sent = none → idx = a ∨ idx = b → m.purse quantum cap idx ≤ most) :
    Even quantum most m' a b (totalA + sentBy a idx sent) (totalB + sentBy b idx sent) := by
  obtain ⟨opensA, opensB, hsa, hsb, hopens⟩ := h
  refine ⟨_, _, hsa.turn hcapa hturn ha fun hnone hidx => ?_,
    hsb.turn hcapb hturn hb fun hnone hidx => ?_, ?_⟩
  · exact hidx ▸ hpassed hnone (Or.inl hidx)
  · exact hidx ▸ hpassed hnone (Or.inr hidx)
  · have hlead := hturn.lead ha hb hab hsa.atCursor hsb.atCursor
    omega

theorem Settled.share (h : Settled quantum most m t opens total) (hpos : 0 < quantum t) :
    (total : ℚ) / quantum t = opens - m.deficit t / quantum t := by
  have hne : (quantum t : ℚ) ≠ 0 := Nat.cast_ne_zero.mpr hpos.ne'
  have haccount : (total : ℚ) + m.deficit t = opens * quantum t := by
    exact_mod_cast h.account
  rw [eq_sub_iff_add_eq, ← add_div, haccount, mul_div_cancel_right₀ _ hne]

/-- What one tier has saved up, in quanta: less than a quantum more when it is closed. -/
theorem Settled.saved (h : Settled quantum most m t opens total) (hpos : 0 < quantum t) :
    0 ≤ (m.deficit t : ℚ) / quantum t ∧
      (m.deficit t : ℚ) / quantum t ≤ (m.opened t).toNat + most / quantum t := by
  have hpos' : (0 : ℚ) < quantum t := Nat.cast_pos.mpr hpos
  refine ⟨div_nonneg (Nat.cast_nonneg _) hpos'.le, ?_⟩
  rw [div_le_iff₀ hpos', add_mul, div_mul_cancel₀ _ hpos'.ne']
  cases hopen : m.opened t with
  | true =>
    have hbound : (m.deficit t : ℚ) ≤ most + quantum t := by
      exact_mod_cast h.bound
    simp only [Bool.toNat_true, Nat.cast_one, one_mul]
    linarith
  | false =>
    have hclosed : (m.deficit t : ℚ) ≤ most := by
      exact_mod_cast h.closed hopen
    simp only [Bool.toNat_false, Nat.cast_zero, zero_mul]
    linarith

/-- **The difference.**  Counted in quanta, what the two have sent differs by at most one and what
they may save up. -/
theorem Even.difference (h : Even quantum most m a b totalA totalB) (hab : a ≠ b)
    (hpa : 0 < quantum a) (hpb : 0 < quantum b) :
    |(totalA : ℚ) / quantum a - totalB / quantum b| ≤ 1 + most / quantum a + most / quantum b := by
  obtain ⟨opensA, opensB, hsa, hsb, hopens⟩ := h
  obtain ⟨hlowa, hhigha⟩ := hsa.saved hpa
  obtain ⟨hlowb, hhighb⟩ := hsb.saved hpb
  have hopens' : (opensA : ℚ) = opensB + lead m a b := by
    exact_mod_cast hopens
  rw [hsa.share hpa, hsb.share hpb, hopens', abs_le]
  have hmosta : (0 : ℚ) ≤ most / quantum a := div_nonneg (Nat.cast_nonneg _) (Nat.cast_nonneg _)
  have hmostb : (0 : ℚ) ≤ most / quantum b := div_nonneg (Nat.cast_nonneg _) (Nat.cast_nonneg _)
  unfold lead
  -- the lead is one while `a` is open, or once it is passed and `b` is not open
  cases hopena : m.opened a with
  | true =>
    have hcursor := hsa.atCursor hopena
    have hahead : Ahead m.cursor a b := by
      rw [hcursor]
      exact ahead_self hab
    have hopenb : m.opened b = false := by
      refine Bool.eq_false_iff.mpr fun hopen => hab ?_
      exact hcursor.symm.trans (hsb.atCursor hopen)
    rw [hopena] at hhigha
    rw [hopenb] at hhighb
    rw [if_pos hahead]
    simp only [Bool.toNat_true, Bool.toNat_false, Nat.cast_one, Nat.cast_zero] at hhigha hhighb ⊢
    constructor <;> linarith
  | false =>
    rw [hopena] at hhigha
    cases hopenb : m.opened b with
    | true =>
      have hcursor := hsb.atCursor hopenb
      have hbehind : ¬ Ahead m.cursor a b := by
        rw [hcursor, Ahead, distance_self]
        exact Nat.not_lt_zero _
      rw [hopenb] at hhighb
      rw [if_neg hbehind]
      simp only [Bool.toNat_true, Bool.toNat_false, Bool.not_true, Nat.cast_one, Nat.cast_zero]
        at hhigha hhighb ⊢
      constructor <;> linarith
    | false =>
      rw [hopenb] at hhighb
      split
      · simp only [Bool.toNat_false, Nat.cast_zero] at hhigha hhighb ⊢
        constructor <;> linarith
      · simp only [Bool.toNat_false, Bool.not_false, Bool.toNat_true, Nat.cast_one, Nat.cast_zero]
          at hhigha hhighb ⊢
        constructor <;> linarith

/-! ## 5. What one tier sends while another one waits -/

/-- How often a tier may still be passed before it has saved up to the cap. -/
def Marks.passes (m : Marks n) (quantum : Fin n → Nat) (cap : Nat) (t : Fin n) : Nat :=
  cap - 1 - m.deficit t / quantum t + (m.opened t).toNat

/-- How often `a` is opened before `b` is visited. -/
def Marks.pending (m : Marks n) (a b : Fin n) : Nat :=
  if Ahead m.cursor a b then (!m.opened a).toNat else 0

/-- What `a` may send before `b` is served: its deficit, and a quantum for every time it may be
opened until then. -/
def Marks.credit (m : Marks n) (quantum : Fin n → Nat) (cap : Nat) (a b : Fin n) : Nat :=
  m.deficit a + quantum a * (m.passes quantum cap b + m.pending a b)

theorem Marks.pending_le (m : Marks n) (a b : Fin n) : m.pending a b ≤ 1 := by
  unfold pending
  split
  · exact Bool.toNat_le _
  · exact Nat.zero_le _

/-- The credit of a tier is never more than it can save up and a quantum for each pass. -/
theorem Marks.credit_le (hpos : 0 < cap) (hcap : m.deficit a ≤ quantum a * cap) (b : Fin n) :
    m.credit quantum cap a b ≤ quantum a * (2 * cap + 1) := by
  have hpending := m.pending_le a b
  have hpasses : m.passes quantum cap b + m.pending a b ≤ cap + 1 := by
    have hopen := Bool.toNat_le (m.opened b)
    unfold passes
    generalize m.deficit b / quantum b = full
    omega
  calc m.credit quantum cap a b
      ≤ quantum a * cap + quantum a * (cap + 1) :=
        Nat.add_le_add hcap (Nat.mul_le_mul_left _ hpasses)
    _ = quantum a * (2 * cap + 1) := by
        rw [← Nat.mul_add, show cap + (cap + 1) = 2 * cap + 1 by omega]

theorem Marks.purse_le (m : Marks n) (t : Fin n) :
    m.purse quantum cap t ≤ m.deficit t + quantum t * (!m.opened t).toNat := by
  unfold purse
  cases m.opened t with
  | true => simp
  | false => simp

/-- A tier that is passed below the cap may be passed once less afterwards. -/
theorem Turn.passes_lt (h : Turn quantum cap busy m idx none m') (hpos : 0 < quantum idx)
    (hbelow : m.purse quantum cap idx < quantum idx * cap) :
    m'.passes quantum cap idx + 1 ≤ m.passes quantum cap idx := by
  obtain ⟨hdeficit, hclosed, -⟩ := h.passed rfl
  unfold Marks.passes
  rw [hdeficit, hclosed]
  unfold Marks.purse at hbelow ⊢
  cases hopen : m.opened idx with
  | true =>
    rw [if_pos rfl]
    exact Nat.le_refl _
  | false =>
    rw [hopen, if_neg Bool.false_ne_true] at hbelow
    have hsum : m.deficit idx + quantum idx < quantum idx * cap := by omega
    have hlt : m.deficit idx / quantum idx + 1 < cap := by
      rw [← Nat.add_div_right _ hpos]
      exact Nat.div_lt_of_lt_mul hsum
    rw [if_neg Bool.false_ne_true, Nat.min_eq_left hsum.le, Nat.add_div_right _ hpos]
    change cap - 1 - (m.deficit idx / quantum idx + 1) + 0 + 1 ≤
      cap - 1 - m.deficit idx / quantum idx + 0
    omega

/-- **The credit, after a turn** that does not serve `b`, and passes it below the cap only. -/
theorem Turn.credit_le (h : Turn quantum cap busy m idx sent m') (ha : busy a) (hb : busy b)
    (hab : a ≠ b) (hpos : 0 < quantum b) (hserved : idx = b → sent = none)
    (hbelow : idx = b → m.purse quantum cap b < quantum b * cap) :
    sentBy a idx sent + m'.credit quantum cap a b ≤ m.credit quantum cap a b := by
  have hfirsta := h.first a ha
  have hfirstb := h.first b hb
  unfold Marks.credit
  by_cases hia : idx = a
  · -- `a` is visited, and opened if it was closed
    subst hia
    obtain ⟨hdb, hob⟩ := h.others b (Ne.symm hab) hb
    have hahead : Ahead m.cursor idx b := ahead_of_le hfirstb hab
    have hsame : m'.passes quantum cap b = m.passes quantum cap b := by
      unfold Marks.passes
      rw [hdb, hob]
    have hpending : m.pending idx b = (!m.opened idx).toNat := if_pos hahead
    have hpurse : m.purse quantum cap idx ≤ _ := m.purse_le idx
    rw [hsame, hpending, Nat.mul_add, Nat.mul_add, sentBy, if_pos rfl]
    cases sent with
    | some bytes =>
      obtain ⟨hle, hdeficit, hopened, hcursor⟩ := h.served bytes rfl
      have hpending' : m'.pending idx b = 0 := by
        unfold Marks.pending
        rw [hopened]
        exact ite_self _
      rw [hpending', hdeficit, Option.getD_some]
      omega
    | none =>
      obtain ⟨hdeficit, -, hcursor⟩ := h.passed rfl
      have hpending' : m'.pending idx b = 0 := by
        unfold Marks.pending
        rw [hcursor, if_neg (not_ahead_next idx b)]
      rw [hpending', hdeficit, Option.getD_none]
      omega
  · obtain ⟨hda, hoa⟩ := h.others a (Ne.symm hia) ha
    have hzero : sentBy a idx sent = 0 := if_neg hia
    by_cases hib : idx = b
    · -- `b` is passed, and `a` comes before it again
      subst hib
      obtain rfl := hserved rfl
      have hlt := h.passes_lt hpos (hbelow rfl)
      have hnot : ¬ Ahead m.cursor a idx := Nat.not_lt.mpr hfirsta
      have hpending : m.pending a idx = 0 := if_neg hnot
      have hpending' := m'.pending_le a idx
      rw [hzero, hda, hpending, Nat.zero_add]
      exact Nat.add_le_add_left (Nat.mul_le_mul_left _ (by omega)) _
    · -- neither is visited, and their order stays
      obtain ⟨hdb, hob⟩ := h.others b (Ne.symm hib) hb
      have hsame : m'.passes quantum cap b = m.passes quantum cap b := by
        unfold Marks.passes
        rw [hdb, hob]
      have horder : Ahead m'.cursor a b ↔ Ahead m.cursor a b := by
        cases sent with
        | some bytes =>
          obtain ⟨-, -, -, hcursor⟩ := h.served bytes rfl
          rw [hcursor]
          exact ahead_move hfirsta hfirstb
        | none =>
          obtain ⟨-, -, hcursor⟩ := h.passed rfl
          rw [hcursor]
          exact ahead_next hfirsta hfirstb (Ne.symm hia) (Ne.symm hib)
      have hpending : m'.pending a b = m.pending a b := by
        unfold Marks.pending
        rw [hoa]
        simp only [horder]
      rw [hzero, hda, hsame, hpending, Nat.zero_add]

end RoundRobin
