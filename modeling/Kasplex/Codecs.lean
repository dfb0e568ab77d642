import Kasplex.Rlp

/-!
# Codecs

A codec writes values as bytes and reads one value off the front of a byte
string. Its reader accepts exactly what its writer writes and leaves the bytes
behind it alone. From a codec of the elements a codec of length-delimited lists
is built: the length header is read back only in its canonical form, and the
elements are read until the payload is used up.
-/

namespace Codecs

open Rlp

structure Codec (α : Type) where
  /-- The values that can be written. -/
  Value : α → Prop
  encode : α → List UInt8
  decode : List UInt8 → Option (α × List UInt8)
  nonempty : ∀ a, Value a → encode a ≠ []
  exact : ∀ bytes a rest, decode bytes = some (a, rest) ↔ Value a ∧ bytes = encode a ++ rest

/-- The number with the given big-endian bytes. -/
def ofBytes (bytes : List UInt8) : Nat := Nat.ofDigits 256 (bytes.map UInt8.toNat).reverse

/-- Length of the payload behind a list header. A length below 56 has no bytes
of its own, and a longer one no leading zero. -/
def decodeListHeader : List UInt8 → Option (Nat × List UInt8)
  | [] => none
  | b :: rest =>
    if b.toNat < 192 then none
    else if b.toNat < 248 then some (b.toNat - 192, rest)
    else
      let lengthBytes := rest.take (b.toNat - 247)
      if lengthBytes.length < b.toNat - 247 then none
      else if lengthBytes.head? = some 0 then none
      else if ofBytes lengthBytes < 56 then none
      else some (ofBytes lengthBytes, rest.drop (b.toNat - 247))

/-- Values read until no byte is left, at most `fuel` of them. -/
def decodeAll {α : Type} (decode : List UInt8 → Option (α × List UInt8)) :
    Nat → List UInt8 → Option (List α)
  | _, [] => some []
  | 0, _ :: _ => none
  | fuel + 1, b :: bytes => do
    let (a, rest) ← decode (b :: bytes)
    let as ← decodeAll decode fuel rest
    some (a :: as)

/-- One list off the front: the values in its payload, and what comes after. -/
def decodeList {α : Type} (decode : List UInt8 → Option (α × List UInt8))
    (bytes : List UInt8) : Option (List α × List UInt8) := do
  let (length, rest) ← decodeListHeader bytes
  if rest.length < length then none
  else
    let as ← decodeAll decode length (rest.take length)
    some (as, rest.drop length)

theorem toNat_map_lt (bytes : List UInt8) : ∀ d ∈ (bytes.map UInt8.toNat).reverse, d < 256 := by
  intro d hd
  obtain ⟨b, -, rfl⟩ := List.mem_map.mp (List.mem_reverse.mp hd)
  exact b.toNat_lt

theorem ofBytes_lt (bytes : List UInt8) : ofBytes bytes < 256 ^ bytes.length := by
  have h := Nat.ofDigits_lt_base_pow_length (b := 256) (by decide) (toNat_map_lt bytes)
  rwa [List.length_reverse, List.length_map] at h

/-- Bytes without a leading zero are the minimal ones of their number. -/
theorem minimalBytes_ofBytes {bytes : List UInt8} (head : bytes.head? ≠ some 0) :
    minimalBytes (ofBytes bytes) = bytes := by
  have hdigits : Nat.digits 256 (ofBytes bytes) = (bytes.map UInt8.toNat).reverse := by
    apply Nat.digits_ofDigits 256 (by decide) _ (toNat_map_lt bytes)
    intro hne
    rw [List.getLast_reverse]
    cases bytes with
    | nil => exact absurd rfl hne
    | cons b bytes =>
      intro hzero
      apply head
      exact congrArg some (UInt8.toNat_inj.mp hzero)
  unfold minimalBytes
  rw [hdigits, List.reverse_reverse, List.map_map]
  conv_rhs => rw [← List.map_id bytes]
  apply List.map_congr_left
  intro b _
  exact UInt8.ofNat_toNat

theorem ofBytes_minimalBytes (v : Nat) : ofBytes (minimalBytes v) = v := by
  have hback : (minimalBytes v).map UInt8.toNat = (Nat.digits 256 v).reverse := by
    unfold minimalBytes
    rw [List.map_map]
    conv_rhs => rw [← List.map_id (Nat.digits 256 v).reverse]
    apply List.map_congr_left
    intro d hd
    have hlt := Nat.digits_lt_base (b := 256) (by decide) (List.mem_reverse.mp hd)
    simp only [Function.comp_apply, UInt8.toNat_ofNat', id_eq]
    omega
  unfold ofBytes
  rw [hback, List.reverse_reverse]
  exact Nat.ofDigits_digits 256 v

theorem minimalBytes_head (v : Nat) : (minimalBytes v).head? ≠ some 0 := by
  intro hzero
  obtain ⟨rest, hcons⟩ := List.head?_eq_some_iff.mp hzero
  have hdigits : Nat.ofDigits 256 (0 :: rest.map UInt8.toNat).reverse = v := by
    have h := ofBytes_minimalBytes v
    rwa [hcons] at h
  rw [Nat.ofDigits_reverse_zero_cons] at hdigits
  have hlt : v < 256 ^ rest.length := hdigits ▸ ofBytes_lt rest
  have hlength := minimalBytes_length_le hlt
  rw [hcons] at hlength
  simp at hlength

/-- A header that is read is the canonical one of its length. -/
theorem decodeListHeader_eq_some {bytes rest : List UInt8} {length : Nat}
    (h : decodeListHeader bytes = some (length, rest)) :
    length < 2 ^ 64 ∧ bytes = lengthHeader 192 length ++ rest := by
  cases bytes with
  | nil => cases h
  | cons b bytes =>
    simp only [decodeListHeader] at h
    split at h
    · cases h
    split at h
    · rename_i hlist hshort
      obtain ⟨rfl, rfl⟩ := Prod.mk.inj (Option.some.inj h)
      refine ⟨by omega, ?_⟩
      unfold lengthHeader
      rw [if_pos (by omega), Nat.add_sub_cancel' (by omega), UInt8.ofNat_toNat]
      rfl
    split at h
    · cases h
    split at h
    · cases h
    split at h
    · cases h
    · rename_i hlist hlong henough hhead hbig
      obtain ⟨rfl, rfl⟩ := Prod.mk.inj (Option.some.inj h)
      have hb := b.toNat_lt
      have hlength : (bytes.take (b.toNat - 247)).length = b.toNat - 247 := by
        have := List.length_take_le (b.toNat - 247) bytes
        omega
      have hlt := ofBytes_lt (bytes.take (b.toNat - 247))
      have hpow : 256 ^ (bytes.take (b.toNat - 247)).length ≤ 256 ^ 8 :=
        Nat.pow_le_pow_right (by decide) (by omega)
      refine ⟨by omega, ?_⟩
      unfold lengthHeader
      rw [if_neg hbig, minimalBytes_ofBytes hhead, hlength,
        show 192 + 55 + (b.toNat - 247) = b.toNat by omega, UInt8.ofNat_toNat, List.cons_append,
        List.take_append_drop]

theorem decodeListHeader_lengthHeader {length : Nat} (hlt : length < 2 ^ 64)
    (rest : List UInt8) :
    decodeListHeader (lengthHeader 192 length ++ rest) = some (length, rest) := by
  obtain ⟨t, p, hcons, hcases⟩ := lengthHeader_eq_cons 192 length
  have hle := minimalBytes_length_le (k := 8) (v := length) (by omega)
  rw [hcons, List.cons_append, decodeListHeader]
  have htag : (UInt8.ofNat (192 + t)).toNat = 192 + t := by
    rw [UInt8.toNat_ofNat']
    omega
  rw [htag, if_neg (by omega)]
  rcases hcases with ⟨hshort, rfl, rfl⟩ | ⟨hlong, rfl, rfl⟩
  · rw [if_pos (by omega), Nat.add_sub_cancel_left, List.nil_append]
  · have hpos := minimalBytes_length_pos (v := length) (by omega)
    have hsub : 192 + (55 + (minimalBytes length).length) - 247 =
        (minimalBytes length).length := by omega
    simp only [hsub, List.take_left, List.drop_left, ofBytes_minimalBytes]
    rw [if_neg (by omega), if_neg (lt_irrefl _), if_neg (minimalBytes_head length),
      if_neg (by omega)]

/-- Only the canonical header of a length is read as that length. -/
theorem decodeListHeader_eq_some_iff {bytes rest : List UInt8} {length : Nat} :
    decodeListHeader bytes = some (length, rest) ↔
      length < 2 ^ 64 ∧ bytes = lengthHeader 192 length ++ rest := by
  constructor
  · exact decodeListHeader_eq_some
  · rintro ⟨hlt, rfl⟩
    exact decodeListHeader_lengthHeader hlt rest

theorem encodeList_append (payload rest : List UInt8) :
    encodeList payload ++ rest = lengthHeader 192 payload.length ++ (payload ++ rest) :=
  List.append_assoc _ _ _

namespace Codec

variable {α : Type} (codec : Codec α)

theorem rest_length_lt {bytes : List UInt8} {a : α} {rest : List UInt8} (value : codec.Value a)
    (front : bytes = codec.encode a ++ rest) : rest.length < bytes.length := by
  have hpos := List.length_pos_iff.mpr (codec.nonempty a value)
  rw [front, List.length_append]
  omega

theorem nothing_left {fuel : Nat} {as : List α} :
    decodeAll codec.decode fuel [] = some as ↔
      (∀ a ∈ as, codec.Value a) ∧ [] = as.flatMap codec.encode := by
  have hall : decodeAll codec.decode fuel [] = some [] := by cases fuel <;> rfl
  rw [hall]
  constructor
  · intro h
    cases h
    simp
  · rintro ⟨hvalues, hnil⟩
    cases as with
    | nil => rfl
    | cons a as =>
      rw [List.flatMap_cons] at hnil
      exact absurd (List.append_eq_nil_iff.mp hnil.symm).1
        (codec.nonempty a (hvalues a List.mem_cons_self))

/-- Reading to the end gives the values whose encodings the bytes are, one
after the other. -/
theorem decodeAll_eq_some_iff {fuel : Nat} {bytes : List UInt8} {as : List α}
    (enough : bytes.length ≤ fuel) :
    decodeAll codec.decode fuel bytes = some as ↔
      (∀ a ∈ as, codec.Value a) ∧ bytes = as.flatMap codec.encode := by
  induction fuel generalizing bytes as with
  | zero =>
    have hnil : bytes = [] := List.length_eq_zero_iff.mp (by omega)
    subst hnil
    exact codec.nothing_left
  | succ fuel ih =>
    cases bytes with
    | nil => exact codec.nothing_left
    | cons b bytes =>
      constructor
      · intro h
        obtain ⟨⟨a, rest⟩, hfirst, h⟩ := Option.bind_eq_some_iff.mp h
        obtain ⟨as', hrest, h⟩ := Option.bind_eq_some_iff.mp h
        cases h
        obtain ⟨hvalue, hbytes⟩ := (codec.exact _ _ _).mp hfirst
        have hshorter := codec.rest_length_lt hvalue hbytes
        obtain ⟨hvalues, rfl⟩ := (ih (by omega)).mp hrest
        exact ⟨List.forall_mem_cons.mpr ⟨hvalue, hvalues⟩, hbytes⟩
      · rintro ⟨hvalues, hbytes⟩
        cases as with
        | nil => cases hbytes
        | cons a as =>
          obtain ⟨hvalue, hvalues⟩ := List.forall_mem_cons.mp hvalues
          have hfirst := (codec.exact _ a (as.flatMap codec.encode)).mpr ⟨hvalue, hbytes⟩
          have hshorter : (as.flatMap codec.encode).length < (b :: bytes).length :=
            codec.rest_length_lt hvalue hbytes
          have hrest := (ih (by omega)).mpr ⟨hvalues, rfl⟩
          simp only [decodeAll, hfirst, hrest, bind, Option.bind]

/-- Lists of values behind a length header. -/
def list : Codec (List α) where
  Value as := (∀ a ∈ as, codec.Value a) ∧ (as.flatMap codec.encode).length < 2 ^ 64
  encode as := encodeList (as.flatMap codec.encode)
  decode := decodeList codec.decode
  nonempty as _ := encodeList_ne_nil _
  exact := by
    intro bytes as rest
    constructor
    · intro hdecoded
      obtain ⟨⟨length, body⟩, hheader, hbody⟩ := Option.bind_eq_some_iff.mp hdecoded
      obtain ⟨hlt, rfl⟩ := decodeListHeader_eq_some_iff.mp hheader
      change (if body.length < length then none else _) = _ at hbody
      split at hbody
      · cases hbody
      · rename_i henough
        obtain ⟨as', hall, hread⟩ := Option.bind_eq_some_iff.mp hbody
        cases hread
        have hlength : (body.take length).length = length := by
          rw [List.length_take]
          omega
        obtain ⟨hvalues, hpayload⟩ := (codec.decodeAll_eq_some_iff hlength.le).mp hall
        refine ⟨⟨hvalues, by rwa [← hpayload, hlength]⟩, ?_⟩
        rw [encodeList, ← hpayload, hlength, List.append_assoc, List.take_append_drop]
    · rintro ⟨⟨hvalues, hlt⟩, rfl⟩
      have hheader := decodeListHeader_eq_some_iff.mpr
        ⟨hlt, encodeList_append (as.flatMap codec.encode) rest⟩
      have hall := (codec.decodeAll_eq_some_iff le_rfl).mpr ⟨hvalues, rfl⟩
      simp only [decodeList, hheader, bind, Option.bind, List.length_append, List.take_left,
        List.drop_left, hall]
      rw [if_neg (by omega)]

/-- A prefix code on finitely many values is a codec. -/
def ofTable (table : List α) (enc : α → List UInt8) (code : PrefixCode (· ∈ table) enc)
    (written : ∀ a ∈ table, enc a ≠ []) : Codec α where
  Value a := a ∈ table
  encode := enc
  decode bytes := table.findSome? fun a => (bytes.dropPrefix? (enc a)).map fun rest => (a, rest)
  nonempty := written
  exact := by
    intro bytes a rest
    have front : ∀ {b result}, (bytes.dropPrefix? (enc b)).map (fun rest => (b, rest)) =
        some result → result.1 = b ∧ bytes = enc b ++ result.2 := by
      intro b result h
      obtain ⟨tail, hdrop, rfl⟩ := Option.map_eq_some_iff.mp h
      obtain ⟨word, hbytes, hword⟩ := List.dropPrefix?_eq_some_iff.mp hdrop
      rw [← eq_of_beq hword]
      exact ⟨rfl, hbytes⟩
    constructor
    · intro h
      obtain ⟨b, hb, hfound⟩ := List.exists_of_findSome?_eq_some h
      obtain ⟨rfl, hbytes⟩ := front hfound
      exact ⟨hb, hbytes⟩
    · rintro ⟨ha, hbytes⟩
      have hown : bytes.dropPrefix? (enc a) = some rest :=
        List.dropPrefix?_eq_some_iff.mpr ⟨enc a, hbytes, beq_self_eq_true _⟩
      cases hfound : table.findSome? fun b =>
          (bytes.dropPrefix? (enc b)).map fun rest => (b, rest) with
      | none =>
        have hnone := List.findSome?_eq_none_iff.mp hfound a ha
        rw [hown] at hnone
        cases hnone
      | some result =>
        obtain ⟨b, hb, hfirst⟩ := List.exists_of_findSome?_eq_some hfound
        obtain ⟨rfl, hother⟩ := front hfirst
        obtain ⟨hsame, hrest⟩ := code _ _ hb ha _ _ (hother.symm.trans hbytes)
        exact congrArg some (Prod.ext hsame hrest)

end Codec

end Codecs
