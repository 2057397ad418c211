import Mathlib.Data.Nat.Init
import SessionAuth.Network.IpAddress
import SessionAuth.Proofs.Decimal.Digits

/-!
Addresses read back.

An address of version 6 is written in one of three shapes: groups between colons, groups around two
colons, and an address of version 4 behind two colons and a group. The reader tries version 4 at every
place where a group may stand, so that two facts carry the proof. A number is read up to the first
character that is no digit of its base (`takeDigits_map`), and no group in front of a colon is taken
for the first number of an address of version 4 (`takeV4?_of_not_dot`).

The type that a database has for addresses writes some of version 6 otherwise. What it writes is read
back as well (`parse?_columnText`).
-/

set_option autoImplicit false

namespace SessionAuth.IpAddress

variable {l rest : List Char} {gs : List UInt16}

/-! ## Numbers -/

/-- A text does not go on with a digit. -/
def Stops (value? : Char → Option Nat) (l : List Char) : Prop := ∀ c ∈ l.head?, value? c = none

theorem takeDigits_of_stops {value? : Char → Option Nat} {base n count : Nat}
    (h : Stops value? l) : takeDigits base value? n count l = (n, count, l) := by
  cases l with
  | nil => rfl
  | cons c l => rw [takeDigits, h c rfl]

/-- Digits are taken up to where the text does not go on with one. -/
theorem takeDigits_map {value? : Char → Option Nat} {digit : Nat → Char} {base : Nat}
    {ds : List Nat} (hds : ∀ d ∈ ds, value? (digit d) = some d) (hrest : Stops value? rest)
    (n count : Nat) :
    takeDigits base value? n count (ds.map digit ++ rest)
      = (ds.foldl (fun n d => n * base + d) n, count + ds.length, rest) := by
  induction ds generalizing n count with
  | nil => exact takeDigits_of_stops hrest
  | cons d ds ih =>
    obtain ⟨hd, hds⟩ := List.forall_mem_cons.mp hds
    show takeDigits base value? n count (digit d :: (ds.map digit ++ rest)) = _
    rw [takeDigits, hd]
    show takeDigits base value? (n * base + d) (count + 1) (ds.map digit ++ rest) = _
    rw [ih hds, List.foldl_cons, List.length_cons, Nat.add_assoc, Nat.add_comm 1]

/-- What stands before the text that is left are digits. -/
theorem takeDigits_split (base : Nat) (value? : Char → Option Nat) (n count : Nat)
    (l : List Char) : ∃ ds, l = ds ++ (takeDigits base value? n count l).2.2
      ∧ ∀ c ∈ ds, (value? c).isSome = true := by
  induction l generalizing n count with
  | nil => exact ⟨[], rfl, nofun⟩
  | cons c l ih =>
    rw [takeDigits]
    cases hc : value? c with
    | none => exact ⟨[], rfl, nofun⟩
    | some v =>
      obtain ⟨ds, hl, hds⟩ := ih (n * base + v) (count + 1)
      refine ⟨c :: ds, congrArg (c :: ·) hl, List.forall_mem_cons.mpr ⟨?_, hds⟩⟩
      rw [hc]
      rfl

/-! ## Version 4 -/

theorem takeByte?_digits (a : UInt8) (hrest : Stops Decimal.value? rest) :
    takeByte? (Decimal.digits a.toNat ++ rest) = some (a, rest) := by
  have ha : a.toNat < 256 := a.toNat_lt
  obtain ⟨ds, hdigits, hspells⟩ := Decimal.digits_spells a.toNat
  have hlength : ds.length ≤ 3 := hspells.length_le (by omega) (by omega)
  have htake : takeDigits 10 Decimal.value? 0 0 (ds.map Decimal.digit ++ rest)
      = (a.toNat, ds.length, rest) := by
    rw [takeDigits_map (fun d hd => Decimal.value?_digit (hspells.lt_ten d hd)) hrest,
      Nat.zero_add]
    exact congrArg (·, ds.length, rest) hspells.value
  -- a number of several digits does not begin with zero
  have hhead : ¬(1 < ds.length ∧ (ds.map Decimal.digit ++ rest).head? = some '0') := by
    obtain ⟨d, ds, rfl, hzero⟩ := hspells.head
    rintro ⟨hlong, hhead⟩
    have hd : d = 0 := by
      have htoNat := congrArg Char.toNat (Option.some.inj hhead)
      rw [Decimal.digit_toNat (hspells.lt_ten d List.mem_cons_self)] at htoNat
      exact Nat.add_left_cancel (m := d) (k := 0) htoNat
    rw [(hzero hd).1] at hlong
    exact Nat.lt_irrefl _ hlong
  have hempty : ds.length ≠ 0 := fun h => hspells.ne_nil (List.length_eq_zero_iff.mp h)
  rw [hdigits, takeByte?, htake]
  show (if _ then _ else _) = _
  rw [if_neg, UInt8.ofNat_toNat]
  rintro (h | h | h | h)
  · exact hempty h
  · omega
  · omega
  · exact hhead h

theorem stops_dot : Stops Decimal.value? ('.' :: l) := by
  rintro _ ⟨⟩
  rfl

/-- An address of version 4 is read back from the front of a text. -/
theorem takeV4?_v4Chars (a b c d : UInt8) (hrest : Stops Decimal.value? rest) :
    takeV4? (v4Chars a b c d ++ rest) = some ((a, b, c, d), rest) := by
  have hassoc : v4Chars a b c d ++ rest
      = Decimal.digits a.toNat ++ '.' :: (Decimal.digits b.toNat ++ '.' ::
        (Decimal.digits c.toNat ++ '.' :: (Decimal.digits d.toNat ++ rest))) := by
    simp [v4Chars]
  rw [hassoc, takeV4?, takeByte?_digits a stops_dot]
  show (takeByte? _).bind _ = _
  rw [takeByte?_digits b stops_dot]
  show (takeByte? _).bind _ = _
  rw [takeByte?_digits c stops_dot]
  show (takeByte? _).bind _ = _
  rw [takeByte?_digits d hrest]
  rfl

theorem stops_nil (value? : Char → Option Nat) : Stops value? [] := nofun

theorem parseV4?_v4Chars (a b c d : UInt8) : parseV4? (v4Chars a b c d) = some (.v4 a b c d) := by
  have h := takeV4?_v4Chars a b c d (stops_nil _)
  rw [List.append_nil] at h
  rw [parseV4?, h]

/-- Whether a character is a digit in hexadecimal. -/
def isHex (c : Char) : Bool := (Hex.value? c).isSome

/-- A digit in decimal is one in hexadecimal. -/
theorem isHex_of_decimal {c : Char} (h : (Decimal.value? c).isSome = true) : isHex c = true := by
  obtain ⟨d, hd⟩ := Option.isSome_iff_exists.mp h
  obtain ⟨hlt, rfl⟩ := Decimal.eq_digit hd
  revert d
  decide

/-- No address of version 4 stands where another character than a dot follows the digits. -/
theorem takeV4?_of_not_dot (h : (l.dropWhile isHex).head? ≠ some '.') : takeV4? l = none := by
  rw [takeV4?]
  cases hbyte : takeByte? l with
  | none => rfl
  | some read =>
    obtain ⟨a, after⟩ := read
    have hafter : after = (takeDigits 10 Decimal.value? 0 0 l).2.2 := by
      obtain ⟨-, hread⟩ := Option.ite_none_left_eq_some.mp hbyte
      exact (congrArg Prod.snd (Option.some.inj hread)).symm
    obtain ⟨ds, hl, hds⟩ := takeDigits_split 10 Decimal.value? 0 0 l
    rw [← hafter] at hl
    have hdot : takeChar? '.' after = none := by
      cases after with
      | nil => rfl
      | cons c after =>
        rw [takeChar?, if_neg]
        rintro rfl
        refine h ?_
        rw [hl, List.dropWhile_append_of_pos fun c hc => isHex_of_decimal (hds c hc)]
        rfl
    show (takeChar? '.' after).bind _ = none
    rw [hdot]
    rfl

/-! ## Groups -/

/-- A number in hexadecimal is written in digits that add up to it. -/
theorem toDigits_hex (n : Nat) : ∃ ds : List Nat, Nat.toDigits 16 n = ds.map Nat.digitChar
    ∧ (∀ d ∈ ds, d < 16) ∧ ds.foldl (fun n d => n * 16 + d) 0 = n := by
  induction n using Nat.strongRecOn with
  | _ n ih =>
    rw [Nat.toDigits_eq_if (by decide)]
    by_cases hn : n < 16
    · rw [if_pos hn]
      exact ⟨[n], rfl, by simpa using hn, Nat.zero_add n⟩
    · rw [if_neg hn]
      obtain ⟨ds, hdigits, hlt, hvalue⟩ := ih (n / 16) (by omega)
      refine ⟨ds ++ [n % 16], by rw [hdigits, List.map_append]; rfl, fun d hd => ?_, ?_⟩
      · rcases List.mem_append.mp hd with hd | hd
        · exact hlt d hd
        · rw [List.mem_singleton.mp hd]
          exact Nat.mod_lt n (by decide)
      · rw [List.foldl_append, hvalue]
        exact Nat.div_add_mod' n 16

theorem hexValue?_digitChar {d : Nat} (h : d < 16) : Hex.value? (Nat.digitChar d) = some d := by
  revert d
  decide

theorem isHex_groupChars (g : UInt16) : ∀ c ∈ groupChars g, isHex c = true := by
  obtain ⟨ds, hdigits, hlt, -⟩ := toDigits_hex g.toNat
  intro c hc
  rw [groupChars, hdigits] at hc
  obtain ⟨d, hd, rfl⟩ := List.mem_map.mp hc
  rw [isHex, hexValue?_digitChar (hlt d hd)]
  rfl

theorem takeGroup?_groupChars (g : UInt16) (hrest : Stops Hex.value? rest) :
    takeGroup? (groupChars g ++ rest) = some (g, rest) := by
  obtain ⟨ds, hdigits, hlt, hvalue⟩ := toDigits_hex g.toNat
  have hlength : (Nat.toDigits 16 g.toNat).length ≤ 4 :=
    (Nat.length_toDigits_le_iff (by decide) (by decide)).mpr g.toNat_lt
  have hpos : 0 < (Nat.toDigits 16 g.toNat).length := Nat.length_toDigits_pos
  rw [hdigits, List.length_map] at hlength hpos
  rw [groupChars, hdigits, takeGroup?,
    takeDigits_map (fun d hd => hexValue?_digitChar (hlt d hd)) hrest, hvalue]
  show (if _ then _ else _) = _
  rw [if_neg (by omega), UInt16.ofNat_toNat]

/-- A text is at its end or goes on with a colon. -/
def Parted (l : List Char) : Prop := ∀ c ∈ l.head?, c = ':'

theorem parted_colon : Parted (':' :: l) := by
  rintro _ ⟨⟩
  rfl

theorem Parted.stops (h : Parted l) : Stops Hex.value? l := by
  intro c hc
  rw [h c hc]
  rfl

/-- Digits that no dot follows are not those of an address of version 4. -/
theorem takeV4?_parted {ds : List Char} (hds : ∀ c ∈ ds, isHex c = true) (h : Parted rest) :
    takeV4? (ds ++ rest) = none := by
  refine takeV4?_of_not_dot ?_
  rw [List.dropWhile_append_of_pos hds]
  cases rest with
  | nil => exact nofun
  | cons c rest =>
    obtain rfl := h c rfl
    exact nofun

/-! ## Sequences of groups -/

/-- Groups, each behind a colon. -/
def behindColons (gs : List UInt16) : List Char := gs.flatMap fun g => ':' :: groupChars g

theorem groupsChars_cons (g : UInt16) (gs : List UInt16) :
    groupsChars (g :: gs) = groupChars g ++ behindColons gs := by
  induction gs generalizing g with
  | nil => simp [groupsChars, behindColons]
  | cons g' gs ih =>
    have hcons : groupsChars (g :: g' :: gs) = groupChars g ++ [':'] ++ groupsChars (g' :: gs) :=
      List.intercalate_cons_cons
    rw [hcons, ih]
    simp [behindColons]

/-- **Where a sequence of groups ends**: at the end of the text, or in front of two colons. -/
def Ends (l : List Char) : Prop := l = [] ∨ ∃ rest, l = ':' :: ':' :: rest

theorem Ends.parted (h : Ends l) : Parted l := by
  rcases h with rfl | ⟨rest, rfl⟩
  · exact nofun
  · exact parted_colon

theorem parted_behindColons (h : Ends rest) : Parted (behindColons gs ++ rest) := by
  cases gs with
  | nil => exact h.parted
  | cons g gs => exact parted_colon

theorem takeGroup?_parted (h : Parted l) : takeGroup? l = none := by
  rw [takeGroup?, takeDigits_of_stops h.stops]
  rfl

/-- No group is taken where a sequence ends. -/
theorem takeGroups_ends (h : Ends l) (room : Nat) (first : Bool) :
    takeGroups room first l = ([], false, l) := by
  cases room with
  | zero => rfl
  | succ room =>
    have hnone : ∀ l', behindColon? first l = some l' → Parted l' := by
      intro l' hl'
      cases first with
      | true => exact Option.some.inj hl' ▸ h.parted
      | false =>
        rcases h with rfl | ⟨rest, rfl⟩
        · cases hl'
        · exact Option.some.inj hl' ▸ parted_colon
    have hv4 : (behindColon? first l).bind takeV4? = none := by
      rw [Option.bind_eq_none_iff]
      exact fun l' hl' => takeV4?_parted (List.forall_mem_nil _) (hnone l' hl')
    have hgroup : (behindColon? first l).bind takeGroup? = none := by
      rw [Option.bind_eq_none_iff]
      exact fun l' hl' => takeGroup?_parted (hnone l' hl')
    rw [takeGroups, hv4, hgroup, ite_self]

/-- A group is taken in front of a colon, and what is behind it afterwards. -/
theorem takeGroups_group {first : Bool} {g : UInt16} {room : Nat} (h : Parted rest)
    (hl : behindColon? first l = some (groupChars g ++ rest)) :
    takeGroups (room + 1) first l
      = (g :: (takeGroups room false rest).1, (takeGroups room false rest).2) := by
  rw [takeGroups, hl, Option.bind_some, Option.bind_some, takeV4?_parted (isHex_groupChars g) h,
    takeGroup?_groupChars g h.stops, ite_self]

/-- Groups behind colons are taken, if there is room for them. -/
theorem takeGroups_behindColons {room : Nat} (hroom : gs.length ≤ room) (h : Ends rest) :
    takeGroups room false (behindColons gs ++ rest) = (gs, false, rest) := by
  induction gs generalizing room with
  | nil => exact takeGroups_ends h room false
  | cons g gs ih =>
    obtain ⟨room, rfl⟩ : ∃ r, room = r + 1 := ⟨room - 1, by rw [List.length_cons] at hroom; omega⟩
    have hl : behindColon? false (behindColons (g :: gs) ++ rest)
        = some (groupChars g ++ (behindColons gs ++ rest)) := by
      simp [behindColons, behindColon?, takeChar?]
    rw [takeGroups_group (parted_behindColons h) hl, ih (Nat.le_of_succ_le_succ hroom)]

/-- **Groups between colons are taken**, if there is room for them. -/
theorem takeGroups_groupsChars {room : Nat} (hroom : gs.length ≤ room) (h : Ends rest) :
    takeGroups room true (groupsChars gs ++ rest) = (gs, false, rest) := by
  cases gs with
  | nil => exact takeGroups_ends h room true
  | cons g gs =>
    obtain ⟨room, rfl⟩ : ∃ r, room = r + 1 := ⟨room - 1, by rw [List.length_cons] at hroom; omega⟩
    have hl : behindColon? true (groupsChars (g :: gs) ++ rest)
        = some (groupChars g ++ (behindColons gs ++ rest)) := by
      rw [groupsChars_cons, List.append_assoc]
      rfl
    rw [takeGroups_group (parted_behindColons h) hl,
      takeGroups_behindColons (Nat.le_of_succ_le_succ hroom) h]

/-! ## Runs of zeros -/

/-- All groups of a run are zero. -/
def ZeroRun (gs : List UInt16) (run : Nat × Nat) : Prop :=
  ∀ k, run.1 ≤ k → k < run.1 + run.2 → gs[k]? = some 0

theorem zeroRun_empty (gs : List UInt16) (start : Nat) : ZeroRun gs (start, 0) := by
  intro k hle hlt
  exact absurd hlt (Nat.not_lt.mpr hle)

/-- What is found is a run of zeros, if the longest run so far is one, and if the one that is current is
one that ends at the place that has been reached. -/
theorem zeroRun_longestZeros {i : Nat} {best current : Nat × Nat} {l : List UInt16}
    (hl : gs.drop i = l) (hbest : ZeroRun gs best) (hcurrent : ZeroRun gs current)
    (hend : current.2 = 0 ∨ current.1 + current.2 = i) :
    ZeroRun gs (longestZeros i best current l) := by
  induction l generalizing i best current with
  | nil => exact hbest
  | cons g l ih =>
    have hg : gs[i]? = some g := by
      rw [← List.head?_drop, hl]
      rfl
    have hdrop : gs.drop (i + 1) = l := by
      rw [← List.tail_drop, hl]
      rfl
    rw [longestZeros]
    by_cases hzero : g = 0
    · rw [if_pos hzero]
      rw [hzero] at hg
      -- the run that is current goes on, or one begins here
      have hrun : ∀ run : Nat × Nat, run = (if current.2 = 0 then (i, 1)
          else (current.1, current.2 + 1)) → ZeroRun gs run ∧ run.1 + run.2 = i + 1 := by
        rintro run rfl
        split
        · refine ⟨fun k hle hlt => ?_, rfl⟩
          obtain rfl : k = i := by
            simp only at hle hlt
            omega
          exact hg
        · rename_i hpos
          have hend := hend.resolve_left hpos
          refine ⟨fun k hle hlt => ?_, by simp only; omega⟩
          simp only at hle hlt
          rcases Nat.lt_or_ge k i with hki | hki
          · exact hcurrent k hle (by omega)
          · obtain rfl : k = i := by omega
            exact hg
      obtain ⟨hrun, hreached⟩ := hrun _ rfl
      refine ih hdrop ?_ hrun (.inr hreached)
      show ZeroRun gs (if _ < (if _ then _ else _ : Nat × Nat).2 then (if _ then _ else _) else best)
      generalize (if current.2 = 0 then (i, 1) else (current.1, current.2 + 1)) = run at hrun
      split
      · exact hrun
      · exact hbest
    · rw [if_neg hzero]
      exact ih hdrop hbest (zeroRun_empty gs 0) (.inl rfl)

/-- A list is put together again from what stands around a run of zeros in it. -/
theorem ZeroRun.fill {start length : Nat} (h : ZeroRun gs (start, length)) (hpos : 0 < length) :
    start + length ≤ gs.length
      ∧ gs.take start ++ List.replicate length 0 ++ gs.drop (start + length) = gs := by
  have hle : start + length ≤ gs.length := by
    have hlast := h (start + length - 1) (by simp only; omega) (by simp only; omega)
    obtain ⟨hlt, -⟩ := List.getElem?_eq_some_iff.mp hlast
    omega
  refine ⟨hle, ?_⟩
  have hzeros : (gs.drop start).take length = List.replicate length 0 := by
    refine List.eq_replicate_iff.mpr ⟨by simp; omega, fun g hg => ?_⟩
    obtain ⟨k, hk⟩ := List.mem_iff_getElem?.mp hg
    have hlt : k < length := by
      have := (List.getElem?_eq_some_iff.mp hk).1
      rw [List.length_take] at this
      omega
    rw [List.getElem?_take, if_pos hlt, List.getElem?_drop] at hk
    exact Option.some.inj (hk.symm.trans (h (start + k) (by simp) (by simp only; omega)))
  rw [← hzeros, ← List.drop_drop, List.append_assoc, List.take_append_drop, List.take_append_drop]

/-! ## Version 6 -/

/-- Eight groups between colons. -/
theorem parseV6?_groupsChars (hgs : gs.length = 8) :
    parseV6? (groupsChars gs) = some (.v6 gs hgs) := by
  have htake := takeGroups_groupsChars (Nat.le_of_eq hgs) (.inl rfl)
  rw [List.append_nil] at htake
  rw [parseV6?, htake]
  exact (dif_pos hgs).trans rfl

/-- **Two colons stand for as many zeros as are missing.** What stands behind them is given by what is
taken from it. -/
theorem parseV6?_colons {head tail : List UInt16} {inV4 : Bool} {l : List Char}
    (hhead : head.length < 8)
    (htail : takeGroups (7 - head.length) true l = (tail, inV4, []))
    (hgs : gs.length = 8)
    (hfill : head ++ List.replicate (8 - head.length - tail.length) 0 ++ tail = gs) :
    parseV6? (groupsChars head ++ ':' :: ':' :: l) = some (.v6 gs hgs) := by
  have htake := takeGroups_groupsChars (Nat.le_of_lt hhead) (.inr ⟨l, rfl⟩)
  subst hfill
  rw [parseV6?, htake]
  refine (dif_neg (Nat.ne_of_lt hhead)).trans ?_
  show ((fun read : List UInt16 × Bool × List Char =>
    let groups := head ++ List.replicate (8 - head.length - read.1.length) 0 ++ read.1
    if h : groups.length = 8 then (if read.2.2.isEmpty then some (IpAddress.v6 groups h) else none)
    else none) (takeGroups (7 - head.length) true l)) = _
  rw [htail]
  exact (dif_pos hgs).trans rfl

/-- Behind two colons, an address of version 4 stands for two groups. -/
theorem takeGroups_v4Chars {room : Nat} (a b c d : UInt8) (first : Bool) (hroom : 1 < room)
    (hl : behindColon? first l = some (v4Chars a b c d)) :
    takeGroups room first l = (pairGroups a b c d, true, []) := by
  obtain ⟨room, rfl⟩ : ∃ r, room = r + 2 := ⟨room - 2, by omega⟩
  have hv4 := takeV4?_v4Chars a b c d (stops_nil _)
  rw [List.append_nil] at hv4
  rw [takeGroups, if_neg (Nat.succ_ne_zero room), hl, Option.bind_some, hv4]

/-- The halves of two groups are paired again. -/
theorem pairGroups_halves (x y : UInt16) :
    pairGroups (x >>> 8).toUInt8 x.toUInt8 (y >>> 8).toUInt8 y.toUInt8 = [x, y] := by
  have hpair : ∀ g : UInt16,
      UInt16.ofNat ((g >>> 8).toUInt8.toNat * 256 + g.toUInt8.toNat) = g := by
    intro g
    have hg : g.toNat < 65536 := g.toNat_lt
    have hhigh : (g >>> 8).toUInt8.toNat = g.toNat / 256 := by
      rw [UInt16.toNat_toUInt8, UInt16.toNat_shiftRight]
      show (g.toNat >>> 8) % 256 = _
      rw [Nat.shiftRight_eq_div_pow]
      omega
    have hlow : g.toUInt8.toNat = g.toNat % 256 := UInt16.toNat_toUInt8 g
    rw [hhigh, hlow, Nat.div_add_mod', UInt16.ofNat_toNat]
  rw [pairGroups, hpair, hpair]

/-- The characters of an address of version 6, with the zeros left out that are found in it. -/
def shortened (gs : List UInt16) : List Char :=
  let (start, length) := longestZeros 0 (0, 0) (0, 0) gs
  if 1 < length then
    groupsChars (gs.take start) ++ ':' :: ':' :: groupsChars (gs.drop (start + length))
  else groupsChars gs

theorem parseV6?_shortened (hgs : gs.length = 8) : parseV6? (shortened gs) = some (.v6 gs hgs) := by
  have hrun : ZeroRun gs (longestZeros 0 (0, 0) (0, 0) gs) :=
    zeroRun_longestZeros rfl (zeroRun_empty gs 0) (zeroRun_empty gs 0) (.inl rfl)
  unfold shortened
  generalize longestZeros 0 (0, 0) (0, 0) gs = run at hrun ⊢
  obtain ⟨start, length⟩ := run
  show parseV6? (if 1 < length then _ else _) = _
  by_cases hlong : 1 < length
  · rw [if_pos hlong]
    obtain ⟨hle, hfill⟩ := hrun.fill (by omega)
    have hhead : (gs.take start).length = start := by
      rw [List.length_take]
      omega
    have htail : (gs.drop (start + length)).length = 8 - start - length := by
      rw [List.length_drop, hgs]
      omega
    have hroom : (gs.drop (start + length)).length ≤ 7 - start := by omega
    have htake : takeGroups (7 - (gs.take start).length) true (groupsChars (gs.drop (start + length)))
        = (gs.drop (start + length), false, []) := by
      have htake := takeGroups_groupsChars hroom (.inl rfl)
      rw [List.append_nil] at htake
      rw [hhead, htake]
    have hmissing : 8 - start - (8 - start - length) = length := by omega
    refine parseV6?_colons (by omega) htake hgs ?_
    rw [hhead, htail, hmissing, hfill]
  · rw [if_neg hlong]
    exact parseV6?_groupsChars hgs

/-- An address of version 4 behind two colons alone. -/
theorem parseV6?_v4Chars (x y : UInt16) :
    parseV6? (':' :: ':' :: v4Chars (x >>> 8).toUInt8 x.toUInt8 (y >>> 8).toUInt8 y.toUInt8)
      = some (.v6 [0, 0, 0, 0, 0, 0, x, y] rfl) :=
  parseV6?_colons (show ([] : List UInt16).length < 8 by decide)
    ((takeGroups_v4Chars _ _ _ _ true (by decide) rfl).trans (by rw [pairGroups_halves])) rfl rfl

/-- An address of version 4 behind two colons and a group. -/
theorem parseV6?_mapped (x y : UInt16) :
    parseV6? (v6Chars [0, 0, 0, 0, 0, 0xffff, x, y])
      = some (.v6 [0, 0, 0, 0, 0, 0xffff, x, y] rfl) := by
  have hv4 : takeGroups 6 false
      (':' :: v4Chars (x >>> 8).toUInt8 x.toUInt8 (y >>> 8).toUInt8 y.toUInt8)
        = ([x, y], true, []) := by
    rw [takeGroups_v4Chars _ _ _ _ false (by decide) rfl, pairGroups_halves]
  have htail : takeGroups (6 + 1) true (groupChars 0xffff
      ++ ':' :: v4Chars (x >>> 8).toUInt8 x.toUInt8 (y >>> 8).toUInt8 y.toUInt8)
        = ([0xffff, x, y], true, []) := by
    rw [takeGroups_group parted_colon rfl, hv4]
  exact parseV6?_colons (show ([] : List UInt16).length < 8 by decide) htail rfl rfl

theorem parseV6?_v6Chars (hgs : gs.length = 8) : parseV6? (v6Chars gs) = some (.v6 gs hgs) := by
  unfold v6Chars
  split
  · exact parseV6?_mapped _ _
  · exact parseV6?_shortened hgs

/-! ## Both versions -/

/-- What does not begin with digits in front of a dot is read as an address of version 6. -/
theorem parse?_of_v6 {a : IpAddress} (hv4 : (l.dropWhile isHex).head? ≠ some '.')
    (h : parseV6? l = some a) : parse? (String.ofList l) = some a := by
  have hnone : parseV4? l = none := by
    rw [parseV4?, takeV4?_of_not_dot hv4]
  rw [parse?, String.toList_ofList, hnone, h]

/-- No dot follows the digits that a group begins with. -/
theorem not_dot_groupsChars (hends : Ends rest) :
    ((groupsChars gs ++ rest).dropWhile isHex).head? ≠ some '.' := by
  have hparted : ∀ {l}, Parted l → (l.dropWhile isHex).head? ≠ some '.' := by
    intro l h
    cases l with
    | nil => exact nofun
    | cons c l =>
      obtain rfl := h c rfl
      exact nofun
  cases gs with
  | nil => exact hparted hends.parted
  | cons g gs =>
    rw [groupsChars_cons, List.append_assoc, List.dropWhile_append_of_pos (isHex_groupChars g)]
    exact hparted (parted_behindColons hends)

theorem not_dot_v6Chars : ((v6Chars gs).dropWhile isHex).head? ≠ some '.' := by
  unfold v6Chars
  split
  · exact nofun
  · show ((shortened gs).dropWhile isHex).head? ≠ some '.'
    unfold shortened
    dsimp only
    split
    · exact not_dot_groupsChars (.inr ⟨_, rfl⟩)
    · rw [← List.append_nil (groupsChars gs)]
      exact not_dot_groupsChars (.inl rfl)

/-- **Every address is read back from its text.** -/
theorem parse?_toText (a : IpAddress) : parse? a.toText = some a := by
  cases a with
  | v4 a b c d =>
    rw [parse?, toText, String.toList_ofList, toChars, parseV4?_v4Chars]
  | v6 gs hgs => exact parse?_of_v6 not_dot_v6Chars (parseV6?_v6Chars hgs)

/-- How a column of addresses shows an address. The column has a type of its own, which writes the last
two of eight groups as an address of version 4 where they stand behind zeros only and do not begin with
another zero. -/
def columnText : IpAddress → String
  | .v6 [0, 0, 0, 0, 0, 0, x, y] h =>
    if x = 0 then toText (.v6 [0, 0, 0, 0, 0, 0, x, y] h)
    else String.ofList
      (':' :: ':' :: v4Chars (x >>> 8).toUInt8 x.toUInt8 (y >>> 8).toUInt8 y.toUInt8)
  | a => a.toText

/-- **Every address is read back from what its column shows.** -/
theorem parse?_columnText (a : IpAddress) : parse? a.columnText = some a := by
  unfold columnText
  split
  · split
    · exact parse?_toText _
    · exact parse?_of_v6 nofun (parseV6?_v4Chars _ _)
  · exact parse?_toText a

end SessionAuth.IpAddress
