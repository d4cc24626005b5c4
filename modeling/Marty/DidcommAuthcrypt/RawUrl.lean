import Marty.Lib.Base64

/-!
# Unpadded URL Base64

The text of some bytes, and the decoder: it skips line breaks wherever they stand, and it does
not look at the bits of the last symbol that no byte needs.  So a text that is decoded need not be
the text of its bytes; it is when it has no line break and those bits are zero.

## Main definitions

* `encodeToString`, `decodeString` — the encoder and the decoder.
* `Strict` — texts without line breaks whose spare bits are zero.
* `eq_encodeToString_iff` — they are the texts that the encoder writes.
-/

namespace Marty.DidcommAuthcrypt

open Lib

abbrev Bytes := List UInt8

def rawUrlEncoding : Base64.Engine := ⟨true, false⟩

/-- The byte of a symbol. -/
def symbolByte (n : Nat) : UInt8 := UInt8.ofNat (rawUrlEncoding.symbol n).toNat

def encodeToString (bytes : Bytes) : Bytes :=
  (Base64.encodeChars rawUrlEncoding bytes).map fun c => UInt8.ofNat c.toNat

/-- The value of a byte that is a symbol. -/
def sextet (byte : UInt8) : Option Nat := rawUrlEncoding.value (Char.ofNat byte.toNat)

def isLineBreak (byte : UInt8) : Bool := byte == 10 || byte == 13

/-- The bytes of a row of values. -/
def joinSextets : List Nat → Option Bytes
  | [] => some []
  | [_] => none
  | [w, x] => some [UInt8.ofNat (w * 4 + x / 16)]
  | [w, x, y] => some [UInt8.ofNat (w * 4 + x / 16), UInt8.ofNat (x % 16 * 16 + y / 4)]
  | w :: x :: y :: z :: rest => (joinSextets rest).map fun tail =>
      UInt8.ofNat (w * 4 + x / 16) :: UInt8.ofNat (x % 16 * 16 + y / 4) ::
        UInt8.ofNat (y % 4 * 64 + z) :: tail

def decodeString (text : Bytes) : Option Bytes :=
  ((text.filter fun byte => !isLineBreak byte).mapM sextet).bind joinSextets

/-! ## Symbols -/

theorem encodeToString_eq (bytes : Bytes) :
    encodeToString bytes = (Base64.sextets bytes).map symbolByte := by
  rw [encodeToString, Base64.encodeChars_eq_map _ rfl, List.map_map]
  rfl

theorem sextet_symbolByte {n : Nat} (h : n < 64) : sextet (symbolByte n) = some n := by
  rw [sextet, symbolByte, UInt8.toNat_ofNat', Nat.mod_eq_of_lt (Base64.symbol_toNat_lt _ h),
    Char.ofNat_toNat, Base64.value_symbol _ h]

theorem symbolByte_plain {n : Nat} (h : n < 64) :
    isLineBreak (symbolByte n) = false ∧ symbolByte n ≠ 46 := by
  have hvalue := sextet_symbolByte h
  refine ⟨Bool.eq_false_iff.mpr fun hbreak => ?_, fun heq => ?_⟩
  · rw [isLineBreak, Bool.or_eq_true, beq_iff_eq, beq_iff_eq] at hbreak
    rcases hbreak with heq | heq <;> rw [heq] at hvalue <;> cases hvalue
  · rw [heq] at hvalue
    cases hvalue

theorem eq_of_sextet {byte : UInt8} {n : Nat} (h : sextet byte = some n) :
    symbolByte n = byte ∧ n < 64 := by
  have hbyte := byte.toNat_lt
  obtain ⟨hsymbol, hsmall⟩ := Base64.symbol_of_value rawUrlEncoding h
  refine ⟨?_, hsmall⟩
  rw [symbolByte, hsymbol, Base64.toNat_ofNat_of_lt (by omega), UInt8.ofNat_toNat]

/-! ## Spare bits -/

/-- The bits of the last symbol that no byte needs are zero. -/
def SpareZero : List Nat → Prop
  | [_, x] => x % 16 = 0
  | [_, _, y] => y % 4 = 0
  | _ :: _ :: _ :: _ :: rest => SpareZero rest
  | _ => True

/-- A text without line breaks whose spare bits are zero. -/
def Strict (text : Bytes) : Prop :=
  (∀ byte ∈ text, isLineBreak byte = false) ∧ SpareZero (text.filterMap sextet)

theorem spareZero_sextets (bytes : Bytes) : SpareZero (Base64.sextets bytes) := by
  induction bytes using Base64.encodeChars.induct with
  | case1 => trivial
  | case2 a =>
      change a.toNat % 4 * 16 % 16 = 0
      omega
  | case3 a b =>
      change b.toNat % 16 * 4 % 4 = 0
      omega
  | case4 a b c rest ih => exact ih

theorem joinSextets_sextets (bytes : Bytes) : joinSextets (Base64.sextets bytes) = some bytes := by
  induction bytes using Base64.encodeChars.induct with
  | case1 => rfl
  | case2 a =>
      have ha := a.toNat_lt
      have h : a.toNat / 4 * 4 + a.toNat % 4 * 16 / 16 = a.toNat := by omega
      rw [Base64.sextets, joinSextets, h, UInt8.ofNat_toNat]
  | case3 a b =>
      have ha := a.toNat_lt
      have hb := b.toNat_lt
      have h : a.toNat / 4 * 4 + (a.toNat % 4 * 16 + b.toNat / 16) / 16 = a.toNat := by omega
      have h' : (a.toNat % 4 * 16 + b.toNat / 16) % 16 * 16 + b.toNat % 16 * 4 / 4 = b.toNat := by
        omega
      rw [Base64.sextets, joinSextets, h, h', UInt8.ofNat_toNat, UInt8.ofNat_toNat]
  | case4 a b c rest ih =>
      have ha := a.toNat_lt
      have hb := b.toNat_lt
      have hc := c.toNat_lt
      have h : a.toNat / 4 * 4 + (a.toNat % 4 * 16 + b.toNat / 16) / 16 = a.toNat := by omega
      have h' : (a.toNat % 4 * 16 + b.toNat / 16) % 16 * 16 +
          (b.toNat % 16 * 4 + c.toNat / 64) / 4 = b.toNat := by omega
      have h'' : (b.toNat % 16 * 4 + c.toNat / 64) % 4 * 64 + c.toNat % 64 = c.toNat := by omega
      rw [Base64.sextets, joinSextets, ih, Option.map_some, h, h', h'', UInt8.ofNat_toNat,
        UInt8.ofNat_toNat, UInt8.ofNat_toNat]

/-- **Values with zero spare bits** are those of the bytes that they are joined to. -/
theorem sextets_of_join {ns : List Nat} {bytes : Bytes} (hlt : ∀ n ∈ ns, n < 64)
    (hspare : SpareZero ns) (h : joinSextets ns = some bytes) : Base64.sextets bytes = ns := by
  induction ns using joinSextets.induct generalizing bytes with
  | case1 =>
      cases h
      rfl
  | case2 => cases h
  | case3 w x =>
      cases h
      have hw := hlt w (by simp)
      have hx := hlt x (by simp)
      change x % 16 = 0 at hspare
      simp only [Base64.sextets, UInt8.toNat_ofNat', List.cons.injEq, and_true]
      omega
  | case4 w x y =>
      cases h
      have hw := hlt w (by simp)
      have hx := hlt x (by simp)
      have hy := hlt y (by simp)
      change y % 4 = 0 at hspare
      simp only [Base64.sextets, UInt8.toNat_ofNat', List.cons.injEq, and_true]
      omega
  | case5 w x y z rest ih =>
      obtain ⟨tail, htail, rfl⟩ := Option.map_eq_some_iff.mp h
      have hw := hlt w (by simp)
      have hx := hlt x (by simp)
      have hy := hlt y (by simp)
      have hz := hlt z (by simp)
      have hrest := ih (fun n hn => hlt n (by simp [hn])) hspare htail
      simp only [Base64.sextets, hrest, UInt8.toNat_ofNat', List.cons.injEq, and_true]
      omega

/-! ## Texts -/

theorem mapM_sextet_symbols {ns : List Nat} (h : ∀ n ∈ ns, n < 64) :
    (ns.map symbolByte).mapM sextet = some ns := by
  induction ns with
  | nil => rfl
  | cons n ns ih =>
      rw [List.map_cons, List.mapM_cons, sextet_symbolByte (h n List.mem_cons_self),
        ih fun m hm => h m (List.mem_cons_of_mem _ hm)]
      rfl

theorem symbols_of_mapM {text : Bytes} {ns : List Nat} (h : text.mapM sextet = some ns) :
    ns.map symbolByte = text ∧ (∀ n ∈ ns, n < 64) ∧ text.filterMap sextet = ns := by
  induction text generalizing ns with
  | nil =>
      cases h
      simp
  | cons byte text ih =>
      rw [List.mapM_cons] at h
      obtain ⟨n, hn, h⟩ := Option.bind_eq_some_iff.mp h
      obtain ⟨rest, hrest, heq⟩ := Option.bind_eq_some_iff.mp h
      cases heq
      obtain ⟨hsymbols, hlt, hvalues⟩ := ih hrest
      obtain ⟨hsymbol, hsmall⟩ := eq_of_sextet hn
      refine ⟨by rw [List.map_cons, hsymbol, hsymbols], ?_, ?_⟩
      · exact List.forall_mem_cons.mpr ⟨hsmall, hlt⟩
      · rw [List.filterMap_cons_some hn, hvalues]

/-- A written text has no line break and no full stop. -/
theorem encodeToString_plain (bytes : Bytes) :
    ∀ byte ∈ encodeToString bytes, isLineBreak byte = false ∧ byte ≠ 46 := by
  intro byte hbyte
  rw [encodeToString_eq] at hbyte
  obtain ⟨n, hn, rfl⟩ := List.mem_map.mp hbyte
  exact symbolByte_plain (Base64.lt_of_mem_sextets hn)

/-- **Bytes are read back** from their text. -/
theorem decodeString_encodeToString (bytes : Bytes) :
    decodeString (encodeToString bytes) = some bytes := by
  have hfilter : (encodeToString bytes).filter (fun byte => !isLineBreak byte) =
      encodeToString bytes := by
    rw [List.filter_eq_self]
    intro byte hbyte
    rw [(encodeToString_plain bytes byte hbyte).1]
    rfl
  rw [decodeString, hfilter, encodeToString_eq,
    mapM_sextet_symbols fun n hn => Base64.lt_of_mem_sextets hn, Option.bind_some,
    joinSextets_sextets]

theorem strict_encodeToString (bytes : Bytes) : Strict (encodeToString bytes) := by
  refine ⟨fun byte hbyte => (encodeToString_plain bytes byte hbyte).1, ?_⟩
  rw [encodeToString_eq, (symbols_of_mapM (mapM_sextet_symbols fun n hn =>
    Base64.lt_of_mem_sextets hn)).2.2]
  exact spareZero_sextets bytes

/-- **A text is the one that is written** for its bytes exactly when it is strict. -/
theorem eq_encodeToString_iff {text bytes : Bytes} (h : decodeString text = some bytes) :
    text = encodeToString bytes ↔ Strict text := by
  constructor
  · rintro rfl
    exact strict_encodeToString bytes
  · rintro ⟨hbreaks, hspare⟩
    have hfilter : text.filter (fun byte => !isLineBreak byte) = text := by
      rw [List.filter_eq_self]
      intro byte hbyte
      rw [hbreaks byte hbyte]
      rfl
    rw [decodeString, hfilter] at h
    obtain ⟨ns, hns, hjoin⟩ := Option.bind_eq_some_iff.mp h
    obtain ⟨hsymbols, hlt, hvalues⟩ := symbols_of_mapM hns
    rw [hvalues] at hspare
    rw [encodeToString_eq, sextets_of_join hlt hspare hjoin, hsymbols]

/-- A line break at the end changes nothing. -/
theorem decodeString_append_lineBreak (text : Bytes) :
    decodeString (text ++ [10]) = decodeString text := by
  rw [decodeString, List.filter_append]
  simp [decodeString, isLineBreak]

/-- A text that is decoded has no full stop. -/
theorem noStop_of_decodeString {text bytes : Bytes} (h : decodeString text = some bytes) :
    (46 : UInt8) ∉ text := by
  intro hmem
  obtain ⟨ns, hns, -⟩ := Option.bind_eq_some_iff.mp h
  obtain ⟨hsymbols, hlt, -⟩ := symbols_of_mapM hns
  have hstop : (46 : UInt8) ∈ ns.map symbolByte := by
    rw [hsymbols]
    exact List.mem_filter.mpr ⟨hmem, by decide⟩
  obtain ⟨n, hn, heq⟩ := List.mem_map.mp hstop
  exact (symbolByte_plain (hlt n hn)).2 heq

theorem length_encodeToString_le (bytes : Bytes) :
    3 * (encodeToString bytes).length ≤ 4 * bytes.length + 4 := by
  rw [encodeToString_eq, List.length_map]
  induction bytes using Base64.encodeChars.induct with
  | case1 => simp [Base64.sextets]
  | case2 a => simp [Base64.sextets]
  | case3 a b => simp [Base64.sextets]
  | case4 a b c rest ih =>
      simp only [Base64.sextets, List.length_cons]
      omega

end Marty.DidcommAuthcrypt
