import Mathlib.Data.List.Induction
import Wayfinder.Proofs.Url.Text

/-!
# Addresses are read back

The written form of an address is one of its spellings.

    numberInBase? b (digits of n in base b) = some n          (numberInBase?_toDigits)
    ipv6? (writeIpv6 pieces)                = some pieces     (ipv6?_writeIpv6)
    ipv4? (writeIpv4 n)                     = some n          (ipv4?_writeIpv4)
-/

namespace Wayfinder

namespace Url

/-! ## Lists of readings -/

/-- What is read off a list is read off its members. -/
theorem exists_of_mem_mapM {α β : Type} {f : α → Option β} {l : List α} {r : List β}
    (h : l.mapM f = some r) : ∀ b ∈ r, ∃ a ∈ l, f a = some b := by
  induction l generalizing r with
  | nil =>
    obtain rfl : [] = r := by simpa using h
    simp
  | cons a l ih =>
    rw [List.mapM_cons] at h
    obtain ⟨b, hb, h⟩ := Option.bind_eq_some_iff.1 h
    obtain ⟨bs, hbs, h⟩ := Option.bind_eq_some_iff.1 h
    obtain rfl := Option.some.inj h
    rintro c (_ | ⟨_, hc⟩)
    · exact ⟨a, List.mem_cons_self, hb⟩
    · obtain ⟨a', ha', hf⟩ := ih hbs c hc
      exact ⟨a', List.mem_cons_of_mem a ha', hf⟩

theorem length_of_mapM {α β : Type} {f : α → Option β} {l : List α} {r : List β}
    (h : l.mapM f = some r) : r.length = l.length := by
  induction l generalizing r with
  | nil =>
    obtain rfl : [] = r := by simpa using h
    rfl
  | cons a l ih =>
    rw [List.mapM_cons] at h
    obtain ⟨b, -, h⟩ := Option.bind_eq_some_iff.1 h
    obtain ⟨bs, hbs, h⟩ := Option.bind_eq_some_iff.1 h
    obtain rfl := Option.some.inj h
    rw [List.length_cons, List.length_cons, ih hbs]

theorem mapM_eq_self {α : Type} {f : α → Option α} {l : List α} (h : ∀ a ∈ l, f a = some a) :
    l.mapM f = some l := by
  induction l with
  | nil => rfl
  | cons a l ih =>
    have ih := ih fun b hb => h b (List.mem_cons_of_mem a hb)
    rw [List.mapM_cons, h a List.mem_cons_self, ih]
    rfl

theorem exists_of_mapM_eq_some {α β : Type} {f : α → Option β} {l : List α} {bs : List β}
    (h : l.mapM f = some bs) : ∀ a ∈ l, ∃ b, f a = some b := by
  induction l generalizing bs with
  | nil => simp
  | cons a l ih =>
    rw [List.mapM_cons] at h
    obtain ⟨b, hb, h⟩ := Option.bind_eq_some_iff.1 h
    obtain ⟨rest, hrest, -⟩ := Option.bind_eq_some_iff.1 h
    intro c hc
    rcases List.mem_cons.1 hc with rfl | hc
    · exact ⟨b, hb⟩
    · exact ih hrest c hc

/-! ## Numbers -/

theorem hexValue?_digitChar : ∀ d < 16, Text.hexValue? (Nat.digitChar d) = some d := by decide

section
variable {b : Nat}

theorem mem_toDigits (hb : 2 ≤ b) {n : Nat} {c : Char} (h : c ∈ Nat.toDigits b n) :
    ∃ d < b, c = Nat.digitChar d := by
  induction n using Nat.strongRecOn with
  | ind n ih =>
    rw [Nat.toDigits_eq_if (by omega)] at h
    split at h
    · rename_i hn
      exact ⟨n, hn, by simpa using h⟩
    · rcases List.mem_append.1 h with h | h
      · exact ih (n / b) (Nat.div_lt_self (by omega) (by omega)) h
      · exact ⟨n % b, Nat.mod_lt _ (by omega), by simpa using h⟩

theorem numberInBase?_concat (cs : List Char) (c : Char) :
    numberInBase? b (cs ++ [c]) = (numberInBase? b cs).bind fun n =>
      (Text.hexValue? c).bind fun d => if d < b then some (b * n + d) else none := by
  simp [numberInBase?, List.foldlM_append]

theorem numberInBase?_toDigits (hb : 2 ≤ b) (hb16 : b ≤ 16) (n : Nat) :
    numberInBase? b (Nat.toDigits b n) = some n := by
  induction n using Nat.strongRecOn with
  | ind n ih =>
    rw [Nat.toDigits_eq_if (by omega)]
    split
    · rename_i hn
      simp [numberInBase?, hexValue?_digitChar n (by omega), hn]
    · have hdiv := ih (n / b) (Nat.div_lt_self (by omega) (by omega))
      have hmod : n % b < b := Nat.mod_lt _ (by omega)
      rw [numberInBase?_concat, hdiv]
      simp [hexValue?_digitChar (n % b) (by omega), hmod, Nat.div_add_mod]

theorem numberInBase?_lt {cs : List Char} {n : Nat} (h : numberInBase? b cs = some n) :
    n < b ^ cs.length := by
  induction cs using List.reverseRecOn generalizing n with
  | nil =>
    obtain rfl : 0 = n := by simpa [numberInBase?] using h
    simp
  | append_singleton cs c ih =>
    rw [numberInBase?_concat] at h
    obtain ⟨m, hm, h⟩ := Option.bind_eq_some_iff.1 h
    obtain ⟨d, -, h⟩ := Option.bind_eq_some_iff.1 h
    split at h
    · obtain rfl := Option.some.inj h
      have := ih hm
      have : b * m + b ≤ b * b ^ cs.length := by
        rw [← Nat.mul_succ]; exact Nat.mul_le_mul_left b (ih hm)
      rw [List.length_append, List.length_singleton, Nat.pow_succ, Nat.mul_comm _ b]
      omega
    · simp at h

end

/-! ## Pieces of version 6 -/

/-- What a piece can be: two bytes. -/
def ArePieces (l : List Nat) : Prop := ∀ n ∈ l, n < 0x10000

section
variable {n fuel : Nat} {p : Ipv6Pieces}

theorem isSome_hexValue?_of_mem {c : Char} (h : c ∈ Nat.toDigits 16 n) :
    (Text.hexValue? c).isSome = true := by
  obtain ⟨d, hd, rfl⟩ := mem_toDigits (by decide) h
  rw [hexValue?_digitChar d hd]
  rfl

theorem takeWhile_hex (hn : n < 0x10000) (rest : List Char)
    (hrest : rest.head?.all (fun c => !(Text.hexValue? c).isSome) = true) :
    ((Nat.toDigits 16 n ++ rest).take 4).takeWhile (fun c => (Text.hexValue? c).isSome) =
      Nat.toDigits 16 n := by
  have hlength : (Nat.toDigits 16 n).length ≤ 4 :=
    (Nat.length_toDigits_le_iff (by decide) (by decide)).2 hn
  have hhead : (rest.take (4 - (Nat.toDigits 16 n).length)).head?.all
      (fun c => !(Text.hexValue? c).isSome) = true := by
    rw [List.head?_take]
    split
    · rfl
    · exact hrest
  rw [List.take_append, List.take_of_length_le hlength]
  exact takeWhile_append_eq_left (fun c hc => isSome_hexValue?_of_mem hc) hhead

theorem toDigits_eq_cons (n : Nat) : ∃ c cs, Nat.toDigits 16 n = c :: cs ∧ c ≠ ':' := by
  cases hdigits : Nat.toDigits 16 n with
  | nil => exact absurd hdigits Nat.toDigits_ne_nil
  | cons c cs =>
    refine ⟨c, cs, rfl, ?_⟩
    rintro rfl
    have := isSome_hexValue?_of_mem (n := n) (c := ':') (by simp [hdigits])
    exact absurd this (by decide)

theorem ipv6PiecesFrom_piece (hn : n < 0x10000) (hp : p.used < 8) {rest : List Char}
    (hrest : rest ≠ []) :
    ipv6PiecesFrom (fuel + 1) p (Nat.toDigits 16 n ++ ':' :: rest) =
      ipv6PiecesFrom fuel { p with pieces := n :: p.pieces } rest := by
  have htake := takeWhile_hex hn (':' :: rest) rfl
  have hread := numberInBase?_toDigits (b := 16) (by decide) (by decide) n
  obtain ⟨c, cs, hdigits, hc⟩ := toDigits_eq_cons n
  have hused : p.used ≠ 8 := by omega
  rw [hdigits] at htake hread ⊢
  rw [List.cons_append] at htake ⊢
  rw [ipv6PiecesFrom]
  simp only [hused, hc, if_false, htake, hread]
  rw [← List.cons_append, List.drop_left]
  cases rest with
  | nil => exact absurd rfl hrest
  | cons d rest => rfl

theorem ipv6PiecesFrom_last (hn : n < 0x10000) (hp : p.used < 8) :
    ipv6PiecesFrom (fuel + 1) p (Nat.toDigits 16 n) =
      some { p with pieces := n :: p.pieces } := by
  have htake := takeWhile_hex hn [] rfl
  have hread := numberInBase?_toDigits (b := 16) (by decide) (by decide) n
  obtain ⟨c, cs, hdigits, hc⟩ := toDigits_eq_cons n
  have hused : p.used ≠ 8 := by omega
  rw [hdigits] at htake hread ⊢
  rw [List.append_nil] at htake
  rw [ipv6PiecesFrom]
  simp only [hused, hc, if_false, htake, hread, List.drop_length]
  rfl

theorem ipv6PiecesFrom_gap (hgap : p.gap = none) (hp : p.used < 8) (rest : List Char) :
    ipv6PiecesFrom (fuel + 1) p (':' :: rest) =
      ipv6PiecesFrom fuel { p with gap := some p.pieces.length } rest := by
  have : p.used ≠ 8 := by omega
  simp [ipv6PiecesFrom, this, hgap]

end

/-! ## Lists of pieces -/

theorem toList_writePieces_cons (n m : Nat) (l : List Nat) :
    (writePieces (n :: m :: l)).toList =
      Nat.toDigits 16 n ++ ':' :: (writePieces (m :: l)).toList := by
  simp [writePieces, String.intercalate_cons_cons]

theorem toList_writePieces_singleton (n : Nat) :
    (writePieces [n]).toList = Nat.toDigits 16 n := by
  simp [writePieces]

theorem writePieces_ne_nil (n : Nat) (l : List Nat) : (writePieces (n :: l)).toList ≠ [] := by
  cases l with
  | nil => rw [toList_writePieces_singleton]; exact Nat.toDigits_ne_nil
  | cons m l => rw [toList_writePieces_cons]; simp

section
variable {k : Nat} {p : Ipv6Pieces}

@[simp] theorem used_addPiece (p : Ipv6Pieces) (n : Nat) :
    Ipv6Pieces.used { p with pieces := n :: p.pieces } = p.used + 1 := by
  simp only [Ipv6Pieces.used, List.length_cons]
  omega

/-- Pieces that end a text are read. -/
theorem ipv6PiecesFrom_writePieces {l : List Nat} (hl : ArePieces l) (hp : p.used + l.length ≤ 8) :
    ipv6PiecesFrom (k + l.length) p (writePieces l).toList =
      some { p with pieces := l.reverse ++ p.pieces } := by
  induction l generalizing p with
  | nil => cases k <;> simp [writePieces, ipv6PiecesFrom]
  | cons n l ih =>
    have hn := hl n List.mem_cons_self
    rw [List.length_cons] at hp
    have hused : p.used < 8 := by omega
    cases l with
    | nil => rw [toList_writePieces_singleton]; exact ipv6PiecesFrom_last hn hused
    | cons m l =>
      have ih := ih (p := { p with pieces := n :: p.pieces })
        (fun i hi => hl i (List.mem_cons_of_mem n hi)) (by rw [used_addPiece]; omega)
      rw [toList_writePieces_cons, List.length_cons, ← Nat.add_assoc,
        ipv6PiecesFrom_piece hn hused (writePieces_ne_nil m l), ih]
      simp

/-- Pieces before a gap are read, and the gap with them. -/
theorem ipv6PiecesFrom_writePieces_gap {n : Nat} {l : List Nat} (hl : ArePieces (n :: l))
    (hgap : p.gap = none) (hp : p.used + (n :: l).length < 8) (rest : List Char) :
    ipv6PiecesFrom (k + 1 + (n :: l).length) p ((writePieces (n :: l)).toList ++ ':' :: ':' :: rest) =
      ipv6PiecesFrom k ⟨(n :: l).reverse ++ p.pieces, some (p.pieces.length + (n :: l).length)⟩
        rest := by
  induction l generalizing n p with
  | nil =>
    have hn := hl n List.mem_cons_self
    rw [List.length_singleton] at hp ⊢
    have hused : p.used < 8 := by omega
    rw [toList_writePieces_singleton, ipv6PiecesFrom_piece hn hused (by simp),
      ipv6PiecesFrom_gap (p := { p with pieces := n :: p.pieces }) hgap
        (by rw [used_addPiece]; omega)]
    simp
  | cons m l ih =>
    have hn := hl n List.mem_cons_self
    rw [List.length_cons] at hp
    have ih := ih (n := m) (p := { p with pieces := n :: p.pieces })
      (fun i hi => hl i (List.mem_cons_of_mem n hi)) hgap (by rw [used_addPiece]; omega)
    rw [toList_writePieces_cons, List.append_assoc, List.cons_append, List.length_cons,
      ← Nat.add_assoc, ipv6PiecesFrom_piece hn (by omega) (by simp), ih]
    simp [Nat.add_comm, Nat.add_left_comm]

end

/-! ## Runs of zeros -/

theorem take_zeroRun (l : List Nat) : l.take (zeroRun l) = List.replicate (zeroRun l) 0 := by
  have hprefix := List.prefix_iff_eq_take.1 (List.takeWhile_prefix (l := l) (fun n => decide (n = 0)))
  have hzeros : ∀ n ∈ l.takeWhile (fun n => decide (n = 0)), n = 0 := fun n hn => by
    simpa using List.mem_takeWhile_imp hn
  exact hprefix.symm.trans (List.eq_replicate_of_mem hzeros)

theorem zeroRun_le (l : List Nat) : zeroRun l ≤ l.length :=
  (List.takeWhile_prefix _).length_le

/-- A run that is found is one of zeros, two at least. -/
theorem longestZeroRun_spec {l : List Nat} {start length : Nat}
    (h : longestZeroRun l = some (start, length)) :
    2 ≤ length ∧ start + length ≤ l.length ∧
      l.take start ++ List.replicate length 0 ++ l.drop (start + length) = l := by
  -- every run that the search can hold is one of the runs it goes through
  have hsearch (runs : List (Nat × Nat)) (best : Option (Nat × Nat))
      (hruns : ∀ r ∈ runs, r.2 = zeroRun (l.drop r.1))
      (hbest : ∀ r ∈ best, 2 ≤ r.2 ∧ r.2 = zeroRun (l.drop r.1)) :
      ∀ r ∈ runs.foldl (fun best r =>
        if 2 ≤ r.2 ∧ best.elim 0 (·.2) < r.2 then some r else best) best,
          2 ≤ r.2 ∧ r.2 = zeroRun (l.drop r.1) := by
    induction runs generalizing best with
    | nil => exact hbest
    | cons r runs ih =>
      refine ih _ (fun r hr => hruns r (List.mem_cons_of_mem _ hr)) fun r' hr' => ?_
      dsimp only at hr'
      split at hr'
      · rename_i hlonger
        obtain rfl := Option.some.inj hr'
        exact ⟨hlonger.1, hruns r List.mem_cons_self⟩
      · exact hbest r' hr'
  obtain ⟨hlength, hrun⟩ := hsearch _ none
    (fun r hr => by obtain ⟨i, -, rfl⟩ := List.mem_map.1 hr; rfl) (by simp) (start, length) h
  have hle := zeroRun_le (l.drop start)
  rw [List.length_drop] at hle
  simp only at hlength hrun
  refine ⟨hlength, by omega, ?_⟩
  calc l.take start ++ List.replicate length 0 ++ l.drop (start + length)
      = l.take start ++ ((l.drop start).take length ++ (l.drop start).drop length) := by
        rw [List.append_assoc, List.drop_drop, hrun, take_zeroRun]
    _ = l := by rw [List.take_append_drop, List.take_append_drop]

/-! ## Addresses of version 6 -/

/-- The eight pieces, a gap filled with zeros. -/
def Ipv6Pieces.all? (p : Ipv6Pieces) : Option (List Nat) :=
  let pieces := p.pieces.reverse
  match p.gap with
  | none => if pieces.length = 8 then some pieces else none
  | some n => some (pieces.take n ++ List.replicate (8 - pieces.length) 0 ++ pieces.drop n)

theorem ipv6?_gap (rest : List Char) : ipv6? (':' :: ':' :: rest) =
    (ipv6PiecesFrom rest.length { gap := some 0 } rest).bind Ipv6Pieces.all? := rfl

theorem ipv6?_pieces {cs : List Char} (hhead : cs.head? ≠ some ':') (hlength : 2 ≤ cs.length) :
    ipv6? cs = (ipv6PiecesFrom cs.length {} cs).bind Ipv6Pieces.all? := by
  unfold ipv6?
  split
  · simp at hhead
  · simp at hhead
  · simp at hlength
  · simp at hlength
  · rfl

theorem length_le_length_writePieces (l : List Nat) : l.length ≤ (writePieces l).toList.length := by
  induction l with
  | nil => simp
  | cons n l ih =>
    cases l with
    | nil =>
      rw [toList_writePieces_singleton]
      exact List.length_pos_iff.2 Nat.toDigits_ne_nil
    | cons m l =>
      rw [toList_writePieces_cons]
      simp only [List.length_append, List.length_cons] at ih ⊢
      omega

theorem head?_writePieces (n : Nat) (l : List Nat) (rest : List Char) :
    ((writePieces (n :: l)).toList ++ rest).head? ≠ some ':' := by
  obtain ⟨c, cs, hdigits, hc⟩ := toDigits_eq_cons n
  cases l with
  | nil => simpa [toList_writePieces_singleton, hdigits] using hc
  | cons m l => simpa [toList_writePieces_cons, hdigits] using hc

/-- Behind a gap the rest is read, and the zeros are put back. -/
theorem ipv6PiecesFrom_bind_all? (front : List Nat) {back : List Nat} (length k : Nat)
    (hback : ArePieces back) (hpos : 0 < length) (hlength : front.length + length + back.length = 8) :
    (ipv6PiecesFrom (k + back.length) ⟨front.reverse, some front.length⟩
      (writePieces back).toList).bind Ipv6Pieces.all? =
        some (front ++ List.replicate length 0 ++ back) := by
  have hzeros : 8 - (front.length + back.length) = length := by omega
  rw [ipv6PiecesFrom_writePieces hback (by simp [Ipv6Pieces.used]; omega)]
  simp [Ipv6Pieces.all?, hzeros]

theorem ipv6?_writeIpv6 {l : List Nat} (hlength : l.length = 8) (hl : ArePieces l) :
    ipv6? (writeIpv6 l).toList = some l := by
  have hle := length_le_length_writePieces l
  unfold writeIpv6
  cases hrun : longestZeroRun l with
  | none =>
    cases l with
    | nil => simp at hlength
    | cons n l =>
      have hhead := head?_writePieces n l []
      rw [List.append_nil] at hhead
      obtain ⟨k, hk⟩ := Nat.exists_eq_add_of_le' hle
      rw [ipv6?_pieces hhead (by omega), hk,
        ipv6PiecesFrom_writePieces hl (by simp [Ipv6Pieces.used, hlength])]
      simpa [Ipv6Pieces.all?] using hlength
  | some run =>
    obtain ⟨start, length⟩ := run
    obtain ⟨htwo, hbound, hzeros⟩ := longestZeroRun_spec hrun
    have hback : ArePieces (l.drop (start + length)) := fun n hn => hl n (List.mem_of_mem_drop hn)
    have hfront : ArePieces (l.take start) := fun n hn => hl n (List.mem_of_mem_take hn)
    have htotal : (l.take start).length + length + (l.drop (start + length)).length = 8 := by
      rw [List.length_take, List.length_drop]
      omega
    simp only
    generalize l.drop (start + length) = back at *
    generalize l.take start = front at *
    have hbackText := length_le_length_writePieces back
    rw [← hzeros]
    cases front with
    | nil =>
      obtain ⟨k, hk⟩ := Nat.exists_eq_add_of_le' hbackText
      have htext : (writePieces [] ++ "::" ++ writePieces back).toList =
          ':' :: ':' :: (writePieces back).toList := by simp [writePieces]
      rw [htext, ipv6?_gap, hk]
      exact ipv6PiecesFrom_bind_all? [] length k hback (by omega) htotal
    | cons n front =>
      have hfrontText := length_le_length_writePieces (n :: front)
      have htext : (writePieces (n :: front) ++ "::" ++ writePieces back).toList =
          (writePieces (n :: front)).toList ++ ':' :: ':' :: (writePieces back).toList := by simp
      obtain ⟨k, hk⟩ := Nat.exists_eq_add_of_le' (m := back.length + 1 + (n :: front).length)
        (n := ((writePieces (n :: front)).toList ++ ':' :: ':' :: (writePieces back).toList).length)
        (by simp only [List.length_append, List.length_cons] at hfrontText hbackText ⊢; omega)
      rw [← Nat.add_assoc, ← Nat.add_assoc] at hk
      rw [htext, ipv6?_pieces (head?_writePieces n front _) (by rw [hk, List.length_cons]; omega), hk,
        ipv6PiecesFrom_writePieces_gap hfront rfl (by simp [Ipv6Pieces.used] at htotal ⊢; omega)]
      simpa using ipv6PiecesFrom_bind_all? (n :: front) length k hback (by omega) htotal

theorem decimalByte?_le {cs : List Char} {n : Nat} (h : decimalByte? cs = some n) : n ≤ 255 := by
  unfold decimalByte? at h
  split at h
  · simp at h
  · simp at h
  · split at h
    · rename_i hcs
      obtain rfl := Option.some.inj h
      exact hcs.2.2
    · simp at h

theorem ipv4Pieces?_lt {cs : List Char} {m n : Nat} (h : ipv4Pieces? cs = some (m, n)) :
    m < 0x10000 ∧ n < 0x10000 := by
  obtain ⟨bytes, hbytes, h⟩ := Option.bind_eq_some_iff.1 h
  have hle (b : Nat) (hb : b ∈ bytes) : b ≤ 255 := by
    obtain ⟨part, -, hpart⟩ := exists_of_mem_mapM hbytes b hb
    exact decimalByte?_le hpart
  split at h
  · rename_i a b c d
    obtain ⟨rfl, rfl⟩ := Prod.mk.inj (Option.some.inj h)
    have ha := hle a (by simp)
    have hb := hle b (by simp)
    have hc := hle c (by simp)
    have hd := hle d (by simp)
    omega
  · simp at h

theorem piece_lt (cs : List Char) :
    (numberInBase? 16 ((cs.take 4).takeWhile fun c => (Text.hexValue? c).isSome)).getD 0 <
      0x10000 := by
  cases h : numberInBase? 16 ((cs.take 4).takeWhile fun c => (Text.hexValue? c).isSome) with
  | none => simp
  | some n =>
    have hlength := (List.takeWhile_prefix (fun c => (Text.hexValue? c).isSome)
      (l := cs.take 4)).length_le.trans (List.length_take_le 4 cs)
    exact (numberInBase?_lt h).trans_le (Nat.pow_le_pow_right (n := 16) (by decide) hlength)

theorem arePieces_cons {n : Nat} {l : List Nat} (hn : n < 0x10000) (hl : ArePieces l) :
    ArePieces (n :: l) := by
  rintro m (_ | ⟨_, hm⟩)
  · exact hn
  · exact hl m hm

/-- Pieces stay pieces, and there is room for all of them. -/
theorem arePieces_ipv6PiecesFrom {fuel : Nat} {p q : Ipv6Pieces} {cs : List Char}
    (h : ipv6PiecesFrom fuel p cs = some q) (hused : p.used ≤ 8) (hp : ArePieces p.pieces) :
    q.used ≤ 8 ∧ ArePieces q.pieces := by
  fun_induction ipv6PiecesFrom fuel p cs
  case case1 =>
    obtain rfl := Option.some.inj h
    exact ⟨hused, hp⟩
  case case5 p cs hfree hgap ih =>
    have hnone : p.gap = none := by simpa using hgap
    refine ih h ?_ hp
    show p.pieces.length + 1 ≤ 8
    simp only [Ipv6Pieces.used, hnone] at hused hfree
    omega
  case case6 p c cs hfree hc digits piece hrest =>
    obtain rfl := Option.some.inj h
    exact ⟨by rw [used_addPiece]; omega, arePieces_cons (piece_lt _) hp⟩
  case case8 p c cs hfree hc digits piece rest hne hrest ih =>
    exact ih h (by rw [used_addPiece]; omega) (arePieces_cons (piece_lt _) hp)
  case case10 p c cs hfree hc digits rest hrest hroom =>
    obtain ⟨⟨a, b⟩, hab, rfl⟩ := Option.map_eq_some_iff.1 h
    obtain ⟨ha, hb⟩ := ipv4Pieces?_lt hab
    refine ⟨?_, arePieces_cons hb (arePieces_cons ha hp)⟩
    simp only [Ipv6Pieces.used, List.length_cons] at hroom ⊢
    omega
  all_goals simp at h

/-- What is read is eight pieces. -/
theorem arePieces_of_ipv6? {cs : List Char} {l : List Nat} (h : ipv6? cs = some l) :
    l.length = 8 ∧ ArePieces l := by
  obtain ⟨p, hp, hl⟩ : ∃ p : Ipv6Pieces, (p.used ≤ 8 ∧ ArePieces p.pieces) ∧ p.all? = some l := by
    simp only [ipv6?] at h
    split at h
    · obtain ⟨p, hread, hl⟩ := Option.bind_eq_some_iff.1 h
      exact ⟨p, arePieces_ipv6PiecesFrom hread (by decide) (by simp [ArePieces]), hl⟩
    · simp at h
    · simp at h
    · simp at h
    · obtain ⟨p, hread, hl⟩ := Option.bind_eq_some_iff.1 h
      exact ⟨p, arePieces_ipv6PiecesFrom hread (by decide) (by simp [ArePieces]), hl⟩
  have hpieces : ArePieces p.pieces.reverse := fun n hn => hp.2 n (List.mem_reverse.1 hn)
  have hlength : p.pieces.length ≤ 8 := (Nat.le_add_right _ _).trans hp.1
  simp only [Ipv6Pieces.all?] at hl
  split at hl
  · split at hl
    · rename_i height
      obtain rfl := Option.some.inj hl
      exact ⟨height, hpieces⟩
    · simp at hl
  · rename_i gap hgap
    obtain rfl := Option.some.inj hl
    constructor
    · simp only [List.length_append, List.length_take, List.length_replicate, List.length_drop,
        List.length_reverse]
      omega
    · intro n hn
      simp only [List.mem_append, List.mem_replicate] at hn
      rcases hn with (hn | hn) | hn
      · exact hpieces n (List.mem_of_mem_take hn)
      · omega
      · exact hpieces n (List.mem_of_mem_drop hn)

/-! ## Addresses of version 4 -/

/-- The digits of one byte of an address. -/
def byteDigits (n i : Nat) : List Char := Nat.toDigits 10 (n / Nat.pow 256 i % 256)

theorem toList_writeIpv4 (n : Nat) : (writeIpv4 n).toList =
    byteDigits n 3 ++ '.' :: (byteDigits n 2 ++ '.' :: (byteDigits n 1 ++ '.' :: byteDigits n 0)) := by
  simp [writeIpv4, byteDigits, toString, Nat.toList_repr]

theorem isDigit_of_mem_byteDigits {n i : Nat} {c : Char} (h : c ∈ byteDigits n i) :
    c.isDigit = true :=
  Nat.isDigit_of_mem_toDigits (by decide) (by decide) h

theorem byteDigits_ne_nil (n i : Nat) : byteDigits n i ≠ [] := Nat.toDigits_ne_nil

/-- What an address is written with. -/
theorem mem_writeIpv4 {n : Nat} {c : Char} (h : c ∈ (writeIpv4 n).toList) :
    c.isDigit = true ∨ c = '.' := by
  simp only [toList_writeIpv4, List.mem_append, List.mem_cons] at h
  rcases h with h | h | h | h | h | h | h
  all_goals first
    | exact Or.inl (isDigit_of_mem_byteDigits h)
    | exact Or.inr h

theorem pieces_writeIpv4 (n : Nat) : Text.pieces (· = '.') (writeIpv4 n).toList =
    [byteDigits n 3, byteDigits n 2, byteDigits n 1, byteDigits n 0] := by
  have hbyte (i : Nat) : Text.pieces (· = '.') (byteDigits n i) = [byteDigits n i] := by
    refine Text.pieces_of_forall_not _ fun c hc => ?_
    have hdigit := isDigit_of_mem_byteDigits hc
    cases hdot : decide (c = '.') with
    | false => rfl
    | true =>
      rw [of_decide_eq_true hdot] at hdigit
      exact absurd hdigit (by decide)
  simp only [toList_writeIpv4]
  rw [Text.pieces_append_cons _ _ _ (by decide), Text.pieces_append_cons _ _ _ (by decide),
    Text.pieces_append_cons _ _ _ (by decide)]
  simp only [hbyte, List.singleton_append]

theorem domainParts_writeIpv4 (n : Nat) : domainParts (writeIpv4 n).toList =
    [byteDigits n 3, byteDigits n 2, byteDigits n 1, byteDigits n 0] := by
  simp [domainParts, pieces_writeIpv4, byteDigits_ne_nil]

theorem ipv4Number?_toDigits : ∀ b < 256, ipv4Number? (Nat.toDigits 10 b) = some b := by
  decide +kernel

theorem endsInNumber_writeIpv4 (n : Nat) : endsInNumber (writeIpv4 n).toList = true := by
  have hdigits : (byteDigits n 0).all Char.isDigit = true :=
    List.all_eq_true.2 fun c hc => isDigit_of_mem_byteDigits hc
  simp [endsInNumber, domainParts_writeIpv4, byteDigits_ne_nil, hdigits]

theorem ipv4?_writeIpv4 {n : Nat} (hn : n < Nat.pow 256 4) :
    ipv4? (writeIpv4 n).toList = some n := by
  have hbyte (i : Nat) : ipv4Number? (byteDigits n i) = some (n / Nat.pow 256 i % 256) :=
    ipv4Number?_toDigits _ (Nat.mod_lt _ (by decide))
  have hbound : n < 4294967296 := hn
  have hle (m : Nat) : m % 256 ≤ 255 := by omega
  have hlt : n % 256 < 256 := by omega
  have hvalue : (256 * (256 * (n / 16777216 % 256) + n / 65536 % 256) + n / 256 % 256) * 256 +
      n % 256 = n := by omega
  simpa [ipv4?, domainParts_writeIpv4, hbyte, hle] using And.intro hlt hvalue

/-- Bytes make a number that is less than as many times 256. -/
theorem foldl_bytes_lt (l : List Nat) (h : ∀ b ∈ l, b ≤ 255) :
    l.foldl (fun n b => 256 * n + b) 0 < Nat.pow 256 l.length := by
  induction l using List.reverseRecOn with
  | nil => decide
  | append_singleton l b ih =>
    have ih := ih fun c hc => h c (by simp [hc])
    have hb := h b (by simp)
    rw [List.foldl_append, List.foldl_cons, List.foldl_nil, List.length_append, List.length_singleton]
    have hpow : Nat.pow 256 (l.length + 1) = Nat.pow 256 l.length * 256 := Nat.pow_succ ..
    omega

/-- An address is four bytes. -/
theorem lt_of_ipv4? {cs : List Char} {n : Nat} (h : ipv4? cs = some n) : n < Nat.pow 256 4 := by
  simp only [ipv4?] at h
  obtain ⟨numbers, hnumbers, h⟩ := Option.bind_eq_some_iff.1 h
  obtain ⟨last, -, h⟩ := Option.bind_eq_some_iff.1 h
  split at h
  · rename_i hfits
    obtain ⟨hparts, hfront, hlast⟩ := hfits
    obtain rfl := Option.some.inj h
    have hlength : numbers.dropLast.length ≤ 4 := by
      rw [List.length_dropLast, length_of_mapM hnumbers]
      omega
    have hbytes := foldl_bytes_lt numbers.dropLast (by simpa using hfront)
    generalize numbers.dropLast.foldl (fun n b => 256 * n + b) 0 = value at *
    generalize numbers.dropLast.length = k at *
    calc value * Nat.pow 256 (4 - k) + last
        < value * Nat.pow 256 (4 - k) + Nat.pow 256 (4 - k) := Nat.add_lt_add_left hlast _
      _ = (value + 1) * Nat.pow 256 (4 - k) := (Nat.succ_mul _ _).symm
      _ ≤ Nat.pow 256 k * Nat.pow 256 (4 - k) := Nat.mul_le_mul_right _ hbytes
      _ = Nat.pow 256 (k + (4 - k)) := (Nat.pow_add ..).symm
      _ = Nat.pow 256 4 := by rw [Nat.add_sub_cancel' hlength]
  · simp at h

end Url

end Wayfinder
