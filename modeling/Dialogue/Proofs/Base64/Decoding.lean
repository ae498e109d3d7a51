import Dialogue.Base64.Decode
import Dialogue.Number.Power
/-!
# Decoding inverts encoding

A text is decoded exactly if it is the encoding of some bytes, and then to these bytes.  A group of
four symbols and the three bytes that it stands for are the same 24 bits; what is left for the last
group is how far it is filled up and that the bits to spare are zero.
-/

namespace Dialogue.Base64

/-! ### Symbols -/

theorem value?_symbol {value : Nat} (small : value < 64) : value? (symbol value) = some value := by
  have checked : ∀ value < 64, value? (symbol value) = some value := by decide
  exact checked value small

theorem symbol_ne_pad {value : Nat} (small : value < 64) : symbol value ≠ pad := by
  have checked : ∀ value < 64, symbol value ≠ pad := by decide
  exact checked value small

/-- A byte with a value is the symbol of this value. -/
theorem of_value?_eq_some {byte : UInt8} {value : Nat} (found : value? byte = some value) :
    value < 64 ∧ byte = symbol value := by
  have checked : ∀ code < 256, ∀ value ∈ value? (UInt8.ofNat code),
      value < 64 ∧ UInt8.ofNat code = symbol value := by
    decide +kernel
  have known := checked byte.toNat byte.toNat_lt value
  rw [UInt8.ofNat_toNat] at known
  exact known found

theorem symbolAt_symbol {value : Nat} (small : value < 64) (position : Nat) :
    symbolAt (symbol value) position = .ok value := by
  rw [symbolAt, value?_symbol small]

theorem of_symbolAt_eq_ok {byte : UInt8} {position value : Nat}
    (read : symbolAt byte position = .ok value) : value < 64 ∧ byte = symbol value := by
  rw [symbolAt] at read
  split at read
  · next found =>
      obtain rfl := Except.ok.inj read
      exact of_value?_eq_some found
  · cases read

/-! ### Groups -/

section
variable {a b c d : Nat}

/-- The first byte takes six bits of the first symbol and two of the second. -/
theorem toNat_firstByte (smallA : a < 64) (smallB : b < 64) :
    (UInt8.ofNat (a * 4 + b / 16)).toNat = a * 4 + b / 16 :=
  UInt8.toNat_ofNat_of_lt' (by simp only [UInt8.size]; omega)

/-- The second byte takes four bits of the second symbol and four of the third. -/
theorem toNat_secondByte (smallC : c < 64) :
    (UInt8.ofNat (b % 16 * 16 + c / 4)).toNat = b % 16 * 16 + c / 4 :=
  UInt8.toNat_ofNat_of_lt' (by simp only [UInt8.size]; omega)

/-- The third byte takes two bits of the third symbol and six of the fourth. -/
theorem toNat_thirdByte (smallD : d < 64) :
    (UInt8.ofNat (c % 4 * 64 + d)).toNat = c % 4 * 64 + d :=
  UInt8.toNat_ofNat_of_lt' (by simp only [UInt8.size]; omega)

/-- The bytes of four symbols are encoded as these symbols. -/
theorem encode_group (smallA : a < 64) (smallB : b < 64) (smallC : c < 64) (smallD : d < 64)
    (bytes : List UInt8) :
    encode (UInt8.ofNat (a * 4 + b / 16) :: UInt8.ofNat (b % 16 * 16 + c / 4) ::
        UInt8.ofNat (c % 4 * 64 + d) :: bytes) =
      symbol a :: symbol b :: symbol c :: symbol d :: encode bytes := by
  have first : (a * 4 + b / 16) / 4 = a := by omega
  have second : (a * 4 + b / 16) % 4 * 16 + (b % 16 * 16 + c / 4) / 16 = b := by omega
  have third : (b % 16 * 16 + c / 4) % 16 * 4 + (c % 4 * 64 + d) / 64 = c := by omega
  have fourth : (c % 4 * 64 + d) % 64 = d := by omega
  rw [encode, toNat_firstByte smallA smallB, toNat_secondByte smallC, toNat_thirdByte smallD,
    first, second, third, fourth]

/-- The symbols of a last byte. -/
theorem encode_one (smallA : a < 64) (smallB : b < 64) (spare : b % 16 = 0) :
    encode [UInt8.ofNat (a * 4 + b / 16)] = [symbol a, symbol b, pad, pad] := by
  have first : (a * 4 + b / 16) / 4 = a := by omega
  have second : (a * 4 + b / 16) % 4 * 16 = b := by omega
  rw [encode, toNat_firstByte smallA smallB, first, second]

/-- The symbols of two last bytes. -/
theorem encode_two (smallA : a < 64) (smallB : b < 64) (smallC : c < 64) (spare : c % 4 = 0) :
    encode [UInt8.ofNat (a * 4 + b / 16), UInt8.ofNat (b % 16 * 16 + c / 4)] =
      [symbol a, symbol b, symbol c, pad] := by
  have first : (a * 4 + b / 16) / 4 = a := by omega
  have second : (a * 4 + b / 16) % 4 * 16 + (b % 16 * 16 + c / 4) / 16 = b := by omega
  have third : (b % 16 * 16 + c / 4) % 16 * 4 = c := by omega
  rw [encode, toNat_firstByte smallA smallB, toNat_secondByte smallC, first, second, third]

end

/-! ### Values of the symbols of bytes -/

section
variable (x y z : UInt8)

theorem firstValue_lt : x.toNat / 4 < 64 :=
  Nat.div_lt_of_lt_mul x.toNat_lt

theorem secondValue_lt : x.toNat % 4 * 16 + y.toNat / 16 < 64 := by
  have bounded := y.toNat_lt
  omega

theorem thirdValue_lt : y.toNat % 16 * 4 + z.toNat / 64 < 64 := by
  have bounded := z.toNat_lt
  omega

theorem fourthValue_lt : z.toNat % 64 < 64 :=
  Nat.mod_lt _ (by decide)

/-- A second symbol that is the last one has two bits of the byte and four to spare. -/
theorem lastSecondValue_lt : x.toNat % 4 * 16 < 64 ∧ x.toNat % 4 * 16 % 16 = 0 := by
  omega

/-- A third symbol that is the last one has four bits of the byte and two to spare. -/
theorem lastThirdValue_lt : y.toNat % 16 * 4 < 64 ∧ y.toNat % 16 * 4 % 4 = 0 := by
  omega

end

/-! ### Reading the last group -/

/-- The symbols and the padding of a last group make it up. -/
theorem of_readLastGroup {start place padding : Nat} {group : List UInt8} {values : List Nat}
    (read : readLastGroup start place group = .ok (values, padding)) :
    (∀ value ∈ values, value < 64) ∧
      group = values.map symbol ++ List.replicate padding pad := by
  induction group generalizing place values with
  | nil =>
      obtain ⟨rfl, rfl⟩ := Prod.mk.inj (Except.ok.inj read)
      simp
  | cons byte rest inductionHypothesis =>
      rw [readLastGroup] at read
      split at read
      · next isPad =>
          split at read
          · next filled =>
              obtain ⟨rfl, rfl⟩ := Prod.mk.inj (Except.ok.inj read)
              have all : rest = List.replicate rest.length pad :=
                List.eq_replicate_iff.mpr ⟨rfl, by simpa using filled.2⟩
              refine ⟨by simp, ?_⟩
              rw [List.map_nil, List.nil_append, List.replicate_succ, ← all, isPad]
          · cases read
      · cases first : symbolAt byte (start + place) with
        | error reason => simp [first, bind, Except.bind] at read
        | ok value =>
          cases later : readLastGroup start (place + 1) rest with
          | error reason => simp [first, later, bind, Except.bind] at read
          | ok found =>
              obtain ⟨others, count⟩ := found
              simp only [first, later, bind, Except.bind, pure, Except.pure, Except.ok.injEq,
                Prod.mk.injEq] at read
              obtain ⟨rfl, rfl⟩ := read
              obtain ⟨small, rfl⟩ := of_symbolAt_eq_ok first
              obtain ⟨othersSmall, rfl⟩ := inductionHypothesis later
              exact ⟨List.forall_mem_cons.mpr ⟨small, othersSmall⟩, rfl⟩

/-- The bytes of a last group are encoded as its symbols and its padding. -/
theorem encode_of_lastBytes {start padding : Nat} {values : List Nat} {bytes : List UInt8}
    (small : ∀ value ∈ values, value < 64) (short : values.length + padding ≤ 4)
    (found : lastBytes start padding values = .ok bytes) :
    encode bytes = values.map symbol ++ List.replicate padding pad := by
  unfold lastBytes at found
  split at found
  · next a b =>
      simp only [List.forall_mem_cons] at small
      split at found
      · cases found
      · next filled =>
          split at found
          · cases found
          · next spare =>
              obtain rfl := Except.ok.inj found
              rw [encode_one small.1 small.2.1 (Decidable.not_not.mp spare),
                Decidable.not_not.mp filled]
              rfl
  · next a b c =>
      simp only [List.forall_mem_cons] at small
      split at found
      · cases found
      · next filled =>
          split at found
          · cases found
          · next spare =>
              obtain rfl := Except.ok.inj found
              rw [encode_two small.1 small.2.1 small.2.2.1 (Decidable.not_not.mp spare),
                Decidable.not_not.mp filled]
              rfl
  · next a b c d =>
      simp only [List.forall_mem_cons] at small
      obtain rfl : padding = 0 := by
        simp only [List.length_cons, List.length_nil] at short
        omega
      obtain rfl := Except.ok.inj found
      rw [encode_group small.1 small.2.1 small.2.2.1 small.2.2.2.1]
      rfl
  · cases found

/-- A last group that is filled up as it should be is read as its symbols. -/
theorem readLastGroup_symbols (start padding : Nat) {place : Nat} {values : List Nat}
    (small : ∀ value ∈ values, value < 64) (late : padding = 0 ∨ 2 ≤ place + values.length) :
    readLastGroup start place (values.map symbol ++ List.replicate padding pad) =
      .ok (values, padding) := by
  induction values generalizing place with
  | nil =>
      cases padding with
      | zero => rfl
      | succ count =>
          have filled : 2 ≤ place := by simpa using late
          simp [readLastGroup, List.replicate_succ, filled]
  | cons value others inductionHypothesis =>
      obtain ⟨smallFirst, smallOthers⟩ := List.forall_mem_cons.mp small
      have laterLate : padding = 0 ∨ 2 ≤ place + 1 + others.length := by
        rw [List.length_cons] at late
        omega
      have later := inductionHypothesis smallOthers laterLate
      rw [List.map_cons, List.cons_append, readLastGroup, if_neg (symbol_ne_pad smallFirst),
        symbolAt_symbol smallFirst, later]
      rfl

/-! ### Reading group by group -/

/-- A computation that succeeds has done its first part. -/
theorem exists_of_bind_eq_ok {α β : Type} {first : Except DecodeError α}
    {next : α → Except DecodeError β} {result : β} (done : first >>= next = .ok result) :
    ∃ value, first = .ok value ∧ next value = .ok result := by
  cases first with
  | error reason => cases done
  | ok value => exact ⟨value, rfl, done⟩

/-- What is decoded is the encoding of the bytes that come out. -/
theorem encode_of_decodeGroups {start : Nat} {text bytes : List UInt8}
    (decoded : decodeGroups start text = .ok bytes) : encode bytes = text := by
  induction start, text using decodeGroups.induct generalizing bytes with
  | case1 start =>
      obtain rfl := Except.ok.inj decoded
      rfl
  | case2 start first second third fourth next rest inductionHypothesis =>
      rw [decodeGroups] at decoded
      obtain ⟨a, readA, afterA⟩ := exists_of_bind_eq_ok decoded
      obtain ⟨b, readB, afterB⟩ := exists_of_bind_eq_ok afterA
      obtain ⟨c, readC, afterC⟩ := exists_of_bind_eq_ok afterB
      obtain ⟨d, readD, afterD⟩ := exists_of_bind_eq_ok afterC
      obtain ⟨others, more, together⟩ := exists_of_bind_eq_ok afterD
      obtain ⟨smallA, rfl⟩ := of_symbolAt_eq_ok readA
      obtain ⟨smallB, rfl⟩ := of_symbolAt_eq_ok readB
      obtain ⟨smallC, rfl⟩ := of_symbolAt_eq_ok readC
      obtain ⟨smallD, rfl⟩ := of_symbolAt_eq_ok readD
      rw [← Except.ok.inj together, encode_group smallA smallB smallC smallD,
        inductionHypothesis more]
  | case3 start group notEmpty notLong =>
      rw [decodeGroups] at decoded
      · obtain ⟨⟨values, padding⟩, read, last⟩ := exists_of_bind_eq_ok decoded
        obtain ⟨small, same⟩ := of_readLastGroup read
        have short : group.length ≤ 4 := by
          match group, notLong with
          | [], _ | [_], _ | [_, _], _ | [_, _, _], _ | [_, _, _, _], _ => simp
          | a :: b :: c :: d :: next :: rest, notLong =>
              exact (notLong a b c d next rest rfl).elim
        rw [same, List.length_append, List.length_map, List.length_replicate] at short
        rw [encode_of_lastBytes small short last, same]
      · exact notEmpty
      · exact notLong

/-- A group of symbols before others is decoded to its three bytes. -/
theorem decodeGroups_group {a b c d : Nat} (smallA : a < 64) (smallB : b < 64) (smallC : c < 64)
    (smallD : d < 64) (start : Nat) {text : List UInt8} (more : text ≠ []) :
    decodeGroups start (symbol a :: symbol b :: symbol c :: symbol d :: text) =
      (decodeGroups (start + 4) text).map fun bytes =>
        UInt8.ofNat (a * 4 + b / 16) :: UInt8.ofNat (b % 16 * 16 + c / 4) ::
          UInt8.ofNat (c % 4 * 64 + d) :: bytes := by
  obtain ⟨next, rest, rfl⟩ := List.exists_cons_of_ne_nil more
  rw [decodeGroups, symbolAt_symbol smallA, symbolAt_symbol smallB, symbolAt_symbol smallC,
    symbolAt_symbol smallD]
  cases decodeGroups (start + 4) (next :: rest) <;> rfl

/-- A last group of symbols and padding is decoded to the bytes of the symbols. -/
theorem decodeGroups_last (start padding : Nat) {values : List Nat}
    (small : ∀ value ∈ values, value < 64) (filled : values.length + padding = 4)
    (enough : 2 ≤ values.length) :
    decodeGroups start (values.map symbol ++ List.replicate padding pad) =
      lastBytes start padding values := by
  have length : (values.map symbol ++ List.replicate padding pad).length = 4 := by
    rw [List.length_append, List.length_map, List.length_replicate, filled]
  have late : padding = 0 ∨ 2 ≤ 0 + values.length := .inr (by omega)
  have read := readLastGroup_symbols start padding small late
  rw [decodeGroups, read]
  · rfl
  · intro same
    rw [same] at length
    cases length
  · intro a b c d next rest same
    rw [same] at length
    simp at length

section
variable {x y z : UInt8} {b c : Nat}

theorem firstByte_eq (low : b / 16 = x.toNat % 4) :
    UInt8.ofNat (x.toNat / 4 * 4 + b / 16) = x := by
  have same : x.toNat / 4 * 4 + b / 16 = x.toNat := by omega
  rw [same, UInt8.ofNat_toNat]

theorem secondByte_eq (high : b % 16 = y.toNat / 16) (low : c / 4 = y.toNat % 16) :
    UInt8.ofNat (b % 16 * 16 + c / 4) = y := by
  have same : b % 16 * 16 + c / 4 = y.toNat := by omega
  rw [same, UInt8.ofNat_toNat]

theorem thirdByte_eq (high : c % 4 = z.toNat / 64) :
    UInt8.ofNat (c % 4 * 64 + z.toNat % 64) = z := by
  have same : c % 4 * 64 + z.toNat % 64 = z.toNat := by omega
  rw [same, UInt8.ofNat_toNat]

end

/-- The encoding of some bytes is decoded to them. -/
theorem decodeGroups_encode (bytes : List UInt8) (start : Nat) :
    decodeGroups start (encode bytes) = .ok bytes := by
  induction bytes using encode.induct generalizing start with
  | case1 => rfl
  | case2 x =>
      have small : ∀ value ∈ [x.toNat / 4, x.toNat % 4 * 16], value < 64 := by
        simp [firstValue_lt, lastSecondValue_lt]
      have last := decodeGroups_last start 2 small rfl (by simp)
      rw [lastBytes, if_neg (by simp), if_neg (by simp), firstByte_eq (x := x) (by omega)] at last
      exact last
  | case3 x y =>
      have boundedY := y.toNat_lt
      have small : ∀ value ∈ [x.toNat / 4, x.toNat % 4 * 16 + y.toNat / 16, y.toNat % 16 * 4],
          value < 64 := by
        simp [firstValue_lt, secondValue_lt, lastThirdValue_lt]
      have last := decodeGroups_last start 1 small rfl (by simp)
      rw [lastBytes, if_neg (by simp), if_neg (by simp), firstByte_eq (x := x) (by omega),
        secondByte_eq (y := y) (by omega) (by omega)] at last
      exact last
  | case4 x y z rest inductionHypothesis =>
      have boundedY := y.toNat_lt
      have boundedZ := z.toNat_lt
      by_cases isLast : rest = []
      · subst isLast
        have small : ∀ value ∈ [x.toNat / 4, x.toNat % 4 * 16 + y.toNat / 16,
            y.toNat % 16 * 4 + z.toNat / 64, z.toNat % 64], value < 64 := by
          simp [firstValue_lt, secondValue_lt, thirdValue_lt, fourthValue_lt]
        have last := decodeGroups_last start 0 small rfl (by simp)
        rw [lastBytes, firstByte_eq (x := x) (by omega),
          secondByte_eq (y := y) (by omega) (by omega), thirdByte_eq (z := z) (by omega)] at last
        exact last
      · have more : encode rest ≠ [] := by
          intro nothing
          have same := inductionHypothesis 0
          rw [nothing, decodeGroups] at same
          exact isLast (Except.ok.inj same).symm
        rw [encode, decodeGroups_group (firstValue_lt x) (secondValue_lt x y) (thirdValue_lt y z)
          (fourthValue_lt z) start more, inductionHypothesis, firstByte_eq (x := x) (by omega),
          secondByte_eq (y := y) (by omega) (by omega), thirdByte_eq (z := z) (by omega)]
        rfl

theorem length_encode (bytes : List UInt8) : (encode bytes).length % 4 = 0 := by
  induction bytes using encode.induct with
  | case1 => rfl
  | case2 x => simp [encode]
  | case3 x y => simp [encode]
  | case4 x y z rest inductionHypothesis =>
      rw [encode]
      simp only [List.length_cons]
      omega

/-- A text is decoded exactly to the bytes that it is the encoding of. -/
theorem decode_eq_ok_iff {text bytes : List UInt8} :
    decode text = .ok bytes ↔ text = encode bytes := by
  constructor
  · intro decoded
    rw [decode] at decoded
    split at decoded
    · split at decoded
      · cases decoded
      · exact (encode_of_decodeGroups decoded).symm
    · next nothing =>
        obtain rfl := Except.ok.inj decoded
        exact List.getLast?_eq_none_iff.mp nothing
  · rintro rfl
    have groups := decodeGroups_encode bytes 0
    rw [decode]
    split
    · rw [if_neg (by simp [length_encode]), groups]
    · next nothing =>
        rw [List.getLast?_eq_none_iff.mp nothing] at groups
        exact groups

/-! ### Encodings by their symbols -/

/-- Six-bit values and a count of padding bytes that make up an encoding: they fill groups of four,
and the bits that the padding leaves to spare are zero. -/
structure Fills (values : List Nat) (padding : Nat) : Prop where
  small : ∀ value ∈ values, value < 64
  atMostTwo : padding ≤ 2
  groups : (values.length + padding) % 4 = 0
  spare : ∀ last ∈ values.getLast?, last % twoTo (2 * padding) = 0

namespace Fills

variable {a b c d padding : Nat} {values : List Nat}

/-- Four values in front are a group of their own. -/
theorem group_iff :
    Fills (a :: b :: c :: d :: values) padding ↔
      (a < 64 ∧ b < 64 ∧ c < 64 ∧ d < 64) ∧ Fills values padding := by
  constructor
  · rintro ⟨small, atMostTwo, groups, spare⟩
    simp only [List.forall_mem_cons] at small
    obtain ⟨smallA, smallB, smallC, smallD, others⟩ := small
    refine ⟨⟨smallA, smallB, smallC, smallD⟩, others, atMostTwo, ?_, ?_⟩
    · simp only [List.length_cons] at groups
      omega
    · intro last isLast
      cases values with
      | nil => cases isLast
      | cons next rest => exact spare last isLast
  · rintro ⟨⟨smallA, smallB, smallC, smallD⟩, others, atMostTwo, groups, spare⟩
    refine ⟨?_, atMostTwo, ?_, ?_⟩
    · simp only [List.forall_mem_cons]
      exact ⟨smallA, smallB, smallC, smallD, others⟩
    · simp only [List.length_cons]
      omega
    · intro last isLast
      cases values with
      | nil =>
          obtain rfl : padding = 0 := by
            rw [List.length_nil] at groups
            omega
          exact Nat.mod_one last
      | cons next rest => exact spare last isLast

theorem of_values (small : ∀ value ∈ values, value < 64) (enough : 2 ≤ values.length)
    (filled : values.length + padding = 4)
    (spare : ∀ last ∈ values.getLast?, last % twoTo (2 * padding) = 0) : Fills values padding :=
  ⟨small, by omega, by rw [filled], spare⟩

/-- Such values and padding are an encoding. -/
theorem exists_encode : ∀ {values : List Nat}, Fills values padding →
    ∃ bytes, encode bytes = values.map symbol ++ List.replicate padding pad
  | [], fills => by
      have groups := fills.groups
      have atMostTwo := fills.atMostTwo
      obtain rfl : padding = 0 := by
        rw [List.length_nil] at groups
        omega
      exact ⟨[], rfl⟩
  | [a], fills => by
      have groups := fills.groups
      have atMostTwo := fills.atMostTwo
      rw [List.length_singleton] at groups
      omega
  | [a, b], fills => by
      have small := fills.small
      have groups := fills.groups
      have atMostTwo := fills.atMostTwo
      simp only [List.forall_mem_cons] at small
      obtain rfl : padding = 2 := by
        simp only [List.length_cons, List.length_nil] at groups
        omega
      exact ⟨_, encode_one small.1 small.2.1 (fills.spare b rfl)⟩
  | [a, b, c], fills => by
      have small := fills.small
      have groups := fills.groups
      have atMostTwo := fills.atMostTwo
      simp only [List.forall_mem_cons] at small
      obtain rfl : padding = 1 := by
        simp only [List.length_cons, List.length_nil] at groups
        omega
      exact ⟨_, encode_two small.1 small.2.1 small.2.2.1 (fills.spare c rfl)⟩
  | a :: b :: c :: d :: rest, fills => by
      obtain ⟨⟨smallA, smallB, smallC, smallD⟩, others⟩ := group_iff.mp fills
      obtain ⟨bytes, same⟩ := exists_encode others
      exact ⟨_, (encode_group smallA smallB smallC smallD bytes).trans (by rw [same]; rfl)⟩

end Fills

/-- An encoding consists of such values and padding. -/
theorem exists_fills (bytes : List UInt8) :
    ∃ values padding, Fills values padding ∧
      encode bytes = values.map symbol ++ List.replicate padding pad := by
  induction bytes using encode.induct with
  | case1 => exact ⟨[], 0, ⟨by simp, by simp, rfl, by simp⟩, rfl⟩
  | case2 x =>
      obtain ⟨second, spare⟩ := lastSecondValue_lt x
      refine ⟨[x.toNat / 4, x.toNat % 4 * 16], 2, .of_values ?_ (by simp) rfl ?_, rfl⟩
      · simp [firstValue_lt, second]
      · simp [spare]
  | case3 x y =>
      obtain ⟨third, spare⟩ := lastThirdValue_lt y
      refine ⟨[x.toNat / 4, x.toNat % 4 * 16 + y.toNat / 16, y.toNat % 16 * 4], 1,
        .of_values ?_ (by simp) rfl ?_, rfl⟩
      · simp [firstValue_lt, secondValue_lt, third]
      · simp [spare]
  | case4 x y z rest inductionHypothesis =>
      obtain ⟨values, padding, fills, same⟩ := inductionHypothesis
      have group := Fills.group_iff.mpr
        ⟨⟨firstValue_lt x, secondValue_lt x y, thirdValue_lt y z, fourthValue_lt z⟩, fills⟩
      exact ⟨_, padding, group, by rw [encode, same]; rfl⟩

end Dialogue.Base64
