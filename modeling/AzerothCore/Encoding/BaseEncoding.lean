import AzerothCore.Collections.BitStream

/-!
# Base encodings

`GenericBaseEncoding` for an alphabet of `2 ^ BITS_PER_CHAR` characters. Both loops move
the same bits: the encoder appends zeros until its last character is full, and the decoder
has them left over in `currentByte`.
-/

namespace AzerothCore.BaseEncoding
open List

/-- The parameters of `GenericBaseEncoding`, with its `static_assert`. -/
structure Encoding where
  BITS_PER_CHAR : ℕ
  PADDING : Char
  DECODE_ERROR : ℕ
  Encode : ℕ → Char
  Decode : Char → ℕ
  pos : 0 < BITS_PER_CHAR
  lt_eight : BITS_PER_CHAR < 8
  decode_encode : ∀ v < 2 ^ BITS_PER_CHAR, Decode (Encode v) = v
  encode_ne : ∀ v < 2 ^ BITS_PER_CHAR, Encode v ≠ PADDING
  decode_lt : ∀ c, Decode c ≠ DECODE_ERROR → Decode c < 2 ^ BITS_PER_CHAR
  error_ge : 2 ^ BITS_PER_CHAR ≤ DECODE_ERROR

namespace GenericBaseEncoding

variable (enc : Encoding)

def PAD_TO : ℕ := Nat.lcm 8 enc.BITS_PER_CHAR

def EncodedSize (size : ℕ) : ℕ :=
  let size := size * 8
  let size := if size % PAD_TO enc ≠ 0 then size + (PAD_TO enc - size % PAD_TO enc) else size
  size / enc.BITS_PER_CHAR

/-- The loop over the bytes: the value of each character, and `bitsLeft` after it. -/
def encodeLoop : List UInt8 → ℕ → List ℕ × ℕ
  | [], bitsLeft => ([], bitsLeft)
  | byte :: rest, bitsLeft =>
    if enc.BITS_PER_CHAR ≤ bitsLeft then
      let thisC := byte.toNat >>> (bitsLeft - enc.BITS_PER_CHAR) &&& (1 <<< enc.BITS_PER_CHAR - 1)
      let (chars, left) :=
        if bitsLeft - enc.BITS_PER_CHAR = 0 then encodeLoop rest 8
        else encodeLoop (byte :: rest) (bitsLeft - enc.BITS_PER_CHAR)
      (thisC :: chars, left)
    else
      let thisC := (byte.toNat &&& (1 <<< bitsLeft - 1)) <<< (enc.BITS_PER_CHAR - bitsLeft)
      match rest with
      | [] => ([thisC], bitsLeft + (8 - enc.BITS_PER_CHAR))
      | next :: rest =>
        let (chars, left) := encodeLoop (next :: rest) (bitsLeft + (8 - enc.BITS_PER_CHAR))
        ((thisC ||| next.toNat >>> (bitsLeft + (8 - enc.BITS_PER_CHAR))) :: chars, left)
termination_by data bitsLeft => (data.length, bitsLeft)
decreasing_by
  · exact Prod.Lex.left _ _ (Nat.lt_succ_self _)
  · exact Prod.Lex.right _ (Nat.sub_lt_self enc.pos (by assumption))
  · exact Prod.Lex.left _ _ (Nat.lt_succ_self _)

/-- `bitsLeft` after a padding character. -/
def padStep (bitsLeft : ℕ) : ℕ :=
  if enc.BITS_PER_CHAR < bitsLeft then bitsLeft - enc.BITS_PER_CHAR
  else bitsLeft + (8 - enc.BITS_PER_CHAR)

/-- The loop that pads, if it ends within some rounds. -/
def padding : ℕ → ℕ → Option (List Char)
  | 0, bitsLeft => if bitsLeft = 8 then some [] else none
  | rounds + 1, bitsLeft =>
    if bitsLeft = 8 then some []
    else (padding rounds (padStep enc bitsLeft)).map (enc.PADDING :: ·)

/-- There are eight values of `bitsLeft`, so eight rounds are enough if any are. -/
def Encode (data : List UInt8) : Option (List Char) :=
  if data = [] then some []
  else
    let (chars, bitsLeft) := encodeLoop enc data 8
    (padding enc 8 bitsLeft).map (chars.map enc.Encode ++ ·)

/-- The loop over the characters: the bytes, `currentByte`, `bitsLeft` and what is left of
the string. -/
def decodeLoop : List Char → ℕ → ℕ → Option (List UInt8 × ℕ × ℕ × List Char)
  | [], currentByte, bitsLeft => some ([], currentByte, bitsLeft, [])
  | c :: rest, currentByte, bitsLeft =>
    if c = enc.PADDING then some ([], currentByte, bitsLeft, c :: rest)
    else if enc.Decode c = enc.DECODE_ERROR then none
    else if enc.BITS_PER_CHAR < bitsLeft then
      decodeLoop rest (uint8 (currentByte ||| enc.Decode c <<< (bitsLeft - enc.BITS_PER_CHAR)))
        (bitsLeft - enc.BITS_PER_CHAR)
    else
      let inChar := enc.BITS_PER_CHAR - bitsLeft
      (decodeLoop rest (uint8 ((enc.Decode c &&& (1 <<< inChar - 1)) <<< (8 - inChar)))
        (8 - inChar)).map fun (v, last) =>
          (UInt8.ofNat (currentByte ||| enc.Decode c >>> inChar) :: v, last)

/-- The loop over the padding. -/
def skipPadding : List Char → ℕ → List Char
  | [], _ => []
  | c :: rest, bitsLeft =>
    if c = enc.PADDING ∧ bitsLeft ≠ 8 then skipPadding rest (padStep enc bitsLeft) else c :: rest

def Decode (data : List Char) : Option (List UInt8) :=
  if data = [] then some []
  else
    (decodeLoop enc data 0 8).bind fun (v, currentByte, bitsLeft, rest) =>
      if currentByte ≠ 0 then none
      else if skipPadding enc rest bitsLeft = [] then some v
      else none

variable {enc}

/-! ## The bits of the encoder -/

/-- The bits that are left to encode. -/
def stream : List UInt8 → ℕ → List Bool
  | [], _ => []
  | byte :: rest, bitsLeft => bits bitsLeft byte.toNat ++ rest.flatMap fun byte => bits 8 byte.toNat

theorem stream_eight (data : List UInt8) :
    stream data 8 = data.flatMap fun byte => bits 8 byte.toNat := by
  cases data with
  | nil => rfl
  | cons byte rest => rw [stream, flatMap_cons]

/-- The characters are the bits of the data, and zeros that fill the last one. -/
structure Encodes (enc : Encoding) (data : List UInt8) (bitsLeft : ℕ) (res : List ℕ × ℕ) :
    Prop where
  pos : 0 < res.2
  le_eight : res.2 ≤ 8
  zeros_lt : 8 - res.2 < enc.BITS_PER_CHAR
  chars_lt : ∀ v ∈ res.1, v < 2 ^ enc.BITS_PER_CHAR
  bits_eq : res.1.flatMap (bits enc.BITS_PER_CHAR) =
    stream data bitsLeft ++ replicate (8 - res.2) false

theorem Encodes.cons {data rest : List UInt8} {bitsLeft left v : ℕ} {res : List ℕ × ℕ}
    (hres : Encodes enc rest left res) (hv : v < 2 ^ enc.BITS_PER_CHAR)
    (hbits : stream data bitsLeft = bits enc.BITS_PER_CHAR v ++ stream rest left) :
    Encodes enc data bitsLeft (v :: res.1, res.2) where
  pos := hres.pos
  le_eight := hres.le_eight
  zeros_lt := hres.zeros_lt
  chars_lt := forall_mem_cons.mpr ⟨hv, hres.chars_lt⟩
  bits_eq := by rw [flatMap_cons, hres.bits_eq, hbits, append_assoc]

theorem encodes_encodeLoop {data : List UInt8} {bitsLeft : ℕ} (hpos : 0 < bitsLeft)
    (hle : bitsLeft ≤ 8) (hend : data = [] → bitsLeft = 8) :
    Encodes enc data bitsLeft (encodeLoop enc data bitsLeft) := by
  have hwidth := enc.lt_eight
  fun_induction encodeLoop enc data bitsLeft with
  | case1 =>
    obtain rfl := hend rfl
    exact ⟨hpos, hle, enc.pos, forall_mem_nil _, rfl⟩
  | case2 byte rest bitsLeft hfits thisC chars left hrest ihNext ihSame =>
    have hbits : bits bitsLeft byte.toNat =
        bits enc.BITS_PER_CHAR thisC ++ bits (bitsLeft - enc.BITS_PER_CHAR) byte.toNat := by
      rw [bits_mask, ← bits_add, Nat.add_sub_cancel' hfits]
    split at hrest
    · rename_i hzero
      rw [hrest] at ihNext
      refine (ihNext (by decide) le_rfl fun _ => rfl).cons (mask_lt _ _) ?_
      rw [stream, hbits, hzero, stream_eight, bits, append_nil]
    · rw [hrest] at ihSame
      refine (ihSame (by omega) (by omega) (by rintro ⟨⟩)).cons (mask_lt _ _) ?_
      rw [stream, hbits, append_assoc, stream]
  | case3 byte bitsLeft hfew thisC =>
    have hsum : bitsLeft + (enc.BITS_PER_CHAR - bitsLeft) = enc.BITS_PER_CHAR := by omega
    have hzeros : 8 - (bitsLeft + (8 - enc.BITS_PER_CHAR)) = enc.BITS_PER_CHAR - bitsLeft := by
      omega
    have hlt := shiftLeft_or_lt (mask_lt bitsLeft byte.toNat)
      (Nat.two_pow_pos (enc.BITS_PER_CHAR - bitsLeft))
    have hbits := bits_shiftLeft_or (byte.toNat &&& (1 <<< bitsLeft - 1)) bitsLeft
      (Nat.two_pow_pos (enc.BITS_PER_CHAR - bitsLeft))
    rw [hsum, Nat.or_zero] at hlt hbits
    refine ⟨by omega, by omega, by dsimp only; omega, forall_mem_singleton.mpr hlt, ?_⟩
    rw [flatMap_singleton, hbits, bits_mask, bits_zero, stream, flatMap_nil, append_nil, hzeros]
  | case4 byte bitsLeft hfew thisC next rest chars left hrest ih =>
    have hsum : bitsLeft + (enc.BITS_PER_CHAR - bitsLeft) = enc.BITS_PER_CHAR := by omega
    have height : enc.BITS_PER_CHAR - bitsLeft + (bitsLeft + (8 - enc.BITS_PER_CHAR)) = 8 := by
      omega
    have hnext : next.toNat >>> (bitsLeft + (8 - enc.BITS_PER_CHAR)) <
        2 ^ (enc.BITS_PER_CHAR - bitsLeft) := by
      rw [Nat.shiftRight_eq_div_pow]
      refine Nat.div_lt_of_lt_mul ?_
      rw [← pow_add, Nat.add_comm, height]
      exact next.toNat_lt
    have hlt := shiftLeft_or_lt (mask_lt bitsLeft byte.toNat) hnext
    have hbits := bits_shiftLeft_or (byte.toNat &&& (1 <<< bitsLeft - 1)) bitsLeft hnext
    rw [hsum] at hlt hbits
    rw [hrest] at ih
    refine (ih (by omega) (by omega) (by rintro ⟨⟩)).cons hlt ?_
    rw [hbits, bits_mask, append_assoc, stream, stream, flatMap_cons,
      ← append_assoc (bits (enc.BITS_PER_CHAR - bitsLeft) _), ← bits_add, height]

/-! ## The bits of the decoder -/

def unpadded (enc : Encoding) (data : List Char) : List Char := data.takeWhile (· != enc.PADDING)

/-- The bits of the characters are those of the bytes, and the ones held in `currentByte`. -/
structure Decodes (enc : Encoding) (data : List Char) (held bitsLeft : ℕ) (v : List UInt8)
    (last left : ℕ) : Prop where
  pos : 0 < left
  le_eight : left ≤ 8
  last_lt : last < 2 ^ (8 - left)
  valid : ∀ c ∈ unpadded enc data, enc.Decode c ≠ enc.DECODE_ERROR
  bits_eq : (v.flatMap fun byte => bits 8 byte.toNat) ++ bits (8 - left) last =
    bits (8 - bitsLeft) held ++
      (unpadded enc data).flatMap fun c => bits enc.BITS_PER_CHAR (enc.Decode c)

variable {data rest : List Char} {c : Char} {held bitsLeft currentByte : ℕ}

theorem unpadded_cons (hne : c ≠ enc.PADDING) : unpadded enc (c :: rest) = c :: unpadded enc rest :=
  takeWhile_cons_of_pos (bne_iff_ne.mpr hne)

theorem uint8_shiftLeft (hle : bitsLeft ≤ 8) (hheld : held < 2 ^ (8 - bitsLeft)) :
    uint8 (held <<< bitsLeft) = held <<< bitsLeft := by
  have hlt := shiftLeft_or_lt hheld (Nat.two_pow_pos bitsLeft)
  rw [Nat.or_zero, Nat.sub_add_cancel hle] at hlt
  exact uint8_of_lt hlt

theorem decodes_of_decodeLoop {res : List UInt8 × ℕ × ℕ × List Char} (hpos : 0 < bitsLeft)
    (hle : bitsLeft ≤ 8) (hheld : held < 2 ^ (8 - bitsLeft))
    (hres : decodeLoop enc data (held <<< bitsLeft) bitsLeft = some res) :
    ∃ v last left, res = (v, last <<< left, left, data.dropWhile (· != enc.PADDING)) ∧
      Decodes enc data held bitsLeft v last left := by
  induction data generalizing held bitsLeft res with
  | nil =>
    cases hres
    exact ⟨[], held, bitsLeft, rfl, hpos, hle, hheld, nofun, (append_nil _).symm⟩
  | cons c rest ih =>
    unfold decodeLoop at hres
    by_cases hpad : c = enc.PADDING
    · rw [if_pos hpad] at hres
      cases hres
      have hnone : unpadded enc (c :: rest) = [] := takeWhile_cons_of_neg (by simp [hpad])
      refine ⟨[], held, bitsLeft, ?_, hpos, hle, hheld, ?_, ?_⟩
      · rw [dropWhile_cons_of_neg (by simp [hpad])]
      · rw [hnone]
        nofun
      · rw [hnone, flatMap_nil, flatMap_nil, nil_append, append_nil]
    have hwidth := enc.lt_eight
    rw [if_neg hpad] at hres
    split at hres
    · cases hres
    rename_i hvalid
    have hlt := enc.decode_lt c hvalid
    have hdrop : (c :: rest).dropWhile (· != enc.PADDING) = rest.dropWhile (· != enc.PADDING) :=
      dropWhile_cons_of_pos (bne_iff_ne.mpr hpad)
    rw [hdrop]
    split at hres
    · rename_i hmore
      have hnext := shiftLeft_or_lt hheld hlt
      have hbits := bits_shiftLeft_or held (8 - bitsLeft) hlt
      have hsum : 8 - bitsLeft + enc.BITS_PER_CHAR = 8 - (bitsLeft - enc.BITS_PER_CHAR) := by omega
      have hjoin : held <<< bitsLeft ||| enc.Decode c <<< (bitsLeft - enc.BITS_PER_CHAR) =
          (held <<< enc.BITS_PER_CHAR ||| enc.Decode c) <<< (bitsLeft - enc.BITS_PER_CHAR) := by
        rw [Nat.shiftLeft_or_distrib, ← Nat.shiftLeft_add, Nat.add_sub_cancel' hmore.le]
      rw [hsum] at hnext hbits
      rw [hjoin, uint8_shiftLeft (by omega) hnext] at hres
      obtain ⟨v, last, left, rfl, hdecodes⟩ := ih (by omega) (by omega) hnext hres
      refine ⟨v, last, left, rfl, hdecodes.pos, hdecodes.le_eight, hdecodes.last_lt, ?_, ?_⟩
      · rw [unpadded_cons hpad]
        exact forall_mem_cons.mpr ⟨hvalid, hdecodes.valid⟩
      · rw [hdecodes.bits_eq, hbits, unpadded_cons hpad, flatMap_cons, append_assoc]
    · rename_i hfew
      have hin : bitsLeft + (enc.BITS_PER_CHAR - bitsLeft) = enc.BITS_PER_CHAR := by omega
      have hsum : 8 - (8 - (enc.BITS_PER_CHAR - bitsLeft)) = enc.BITS_PER_CHAR - bitsLeft := by omega
      have hhigh : enc.Decode c >>> (enc.BITS_PER_CHAR - bitsLeft) < 2 ^ bitsLeft := by
        rw [Nat.shiftRight_eq_div_pow]
        refine Nat.div_lt_of_lt_mul ?_
        rw [← pow_add, Nat.add_comm, hin]
        exact hlt
      have hbyte := shiftLeft_or_lt hheld hhigh
      have hbits := bits_shiftLeft_or held (8 - bitsLeft) hhigh
      rw [Nat.sub_add_cancel hle] at hbyte hbits
      have hnext : enc.Decode c &&& (1 <<< (enc.BITS_PER_CHAR - bitsLeft) - 1) <
          2 ^ (8 - (8 - (enc.BITS_PER_CHAR - bitsLeft))) := by
        rw [hsum]
        exact mask_lt _ _
      dsimp only at hres
      rw [uint8_shiftLeft (by omega) hnext] at hres
      obtain ⟨res, hrest, rfl⟩ := Option.map_eq_some_iff.mp hres
      obtain ⟨v, last, left, rfl, hdecodes⟩ := ih (by omega) (by omega) hnext hrest
      refine ⟨_ :: v, last, left, rfl, hdecodes.pos, hdecodes.le_eight, hdecodes.last_lt, ?_, ?_⟩
      · rw [unpadded_cons hpad]
        exact forall_mem_cons.mpr ⟨hvalid, hdecodes.valid⟩
      · have hbitsEq := hdecodes.bits_eq
        rw [hsum, bits_mask] at hbitsEq
        rw [flatMap_cons, append_assoc, hbitsEq, UInt8.toNat_ofNat_of_lt' hbyte, hbits,
          unpadded_cons hpad, flatMap_cons, append_assoc, ← append_assoc (bits bitsLeft _),
          ← bits_add, hin]

theorem decodeLoop_exists (hvalid : ∀ c ∈ unpadded enc data, enc.Decode c ≠ enc.DECODE_ERROR) :
    ∃ res, decodeLoop enc data currentByte bitsLeft = some res := by
  induction data generalizing currentByte bitsLeft with
  | nil => exact ⟨_, rfl⟩
  | cons c rest ih =>
    unfold decodeLoop
    by_cases hpad : c = enc.PADDING
    · exact ⟨_, if_pos hpad⟩
    · rw [unpadded_cons hpad, forall_mem_cons] at hvalid
      rw [if_neg hpad, if_neg hvalid.1]
      split
      · exact ih hvalid.2
      · obtain ⟨res, hres⟩ := ih hvalid.2
        exact ⟨_, Option.map_eq_some_iff.mpr ⟨res, hres, rfl⟩⟩

section

variable {rounds : ℕ} {pads : List Char} (hpads : padding enc rounds bitsLeft = some pads)
include hpads

theorem skipPadding_padding : skipPadding enc pads bitsLeft = [] := by
  induction rounds generalizing bitsLeft pads with
  | zero =>
    obtain ⟨-, hpads⟩ := Option.ite_none_right_eq_some.mp hpads
    cases hpads
    rfl
  | succ rounds ih =>
    unfold padding at hpads
    split at hpads
    · cases hpads
      rfl
    · rename_i hmore
      obtain ⟨pads, hloop, rfl⟩ := Option.map_eq_some_iff.mp hpads
      rw [skipPadding, if_pos ⟨rfl, hmore⟩, ih hloop]

theorem padding_of_skipPadding (hrest : skipPadding enc rest bitsLeft = []) :
    ∃ count, pads = rest ++ replicate count enc.PADDING := by
  induction rounds generalizing bitsLeft pads rest with
  | zero =>
    obtain ⟨rfl, hpads⟩ := Option.ite_none_right_eq_some.mp hpads
    cases hpads
    cases rest with
    | nil => exact ⟨0, rfl⟩
    | cons c rest => exact absurd ((if_neg fun hskip => hskip.2 rfl).symm.trans hrest) (cons_ne_nil _ _)
  | succ rounds ih =>
    unfold padding at hpads
    split at hpads
    · rename_i hend
      cases hpads
      subst hend
      cases rest with
      | nil => exact ⟨0, rfl⟩
      | cons c rest =>
        exact absurd ((if_neg fun hskip => hskip.2 rfl).symm.trans hrest) (cons_ne_nil _ _)
    · obtain ⟨pads, hloop, rfl⟩ := Option.map_eq_some_iff.mp hpads
      cases rest with
      | nil =>
        obtain ⟨count, rfl⟩ := @ih [] _ _ hloop rfl
        exact ⟨count + 1, rfl⟩
      | cons c rest =>
        unfold skipPadding at hrest
        split at hrest
        · rename_i hskip
          obtain ⟨count, rfl⟩ := ih hloop hrest
          exact ⟨count, hskip.1 ▸ rfl⟩
        · cases hrest

end

theorem unpadded_append {chars : List ℕ} (hchars : ∀ v ∈ chars, v < 2 ^ enc.BITS_PER_CHAR)
    (count : ℕ) :
    unpadded enc (chars.map enc.Encode ++ replicate count enc.PADDING) = chars.map enc.Encode ∧
      (chars.map enc.Encode ++ replicate count enc.PADDING).dropWhile (· != enc.PADDING) =
        replicate count enc.PADDING := by
  have hne : ∀ c ∈ chars.map enc.Encode, (c != enc.PADDING) = true := by
    refine forall_mem_map.mpr fun v hmem => bne_iff_ne.mpr ?_
    exact enc.encode_ne v (hchars v hmem)
  unfold unpadded
  rw [takeWhile_append_of_pos hne, dropWhile_append_of_pos hne]
  cases count <;> simp [replicate_succ]

theorem byte_inj {x y : UInt8} (heq : bits 8 x.toNat = bits 8 y.toNat) : x = y :=
  UInt8.toNat_inj.mp (bits_inj x.toNat_lt y.toNat_lt heq)

/-- Strings decode by their bits. -/
theorem decode_eq_some_iff {v : List UInt8} :
    Decode enc data = some v ↔ ∃ left, 0 < left ∧ left ≤ 8 ∧
      (∀ c ∈ unpadded enc data, enc.Decode c ≠ enc.DECODE_ERROR) ∧
      (v.flatMap fun byte => bits 8 byte.toNat) ++ replicate (8 - left) false =
        ((unpadded enc data).flatMap fun c => bits enc.BITS_PER_CHAR (enc.Decode c)) ∧
      skipPadding enc (data.dropWhile (· != enc.PADDING)) left = [] := by
  have hdecode : Decode enc data = (decodeLoop enc data (0 <<< 8) 8).bind
      fun (v, currentByte, bitsLeft, rest) =>
        if currentByte ≠ 0 then none
        else if skipPadding enc rest bitsLeft = [] then some v
        else none := by
    cases data with
    | nil | cons => rfl
  have hzero : 0 < 2 ^ (8 - 8) := by decide
  rw [hdecode]
  constructor
  · intro hsome
    obtain ⟨res, hres, hsome⟩ := Option.bind_eq_some_iff.mp hsome
    obtain ⟨v', last, left, rfl, hdecodes⟩ := decodes_of_decodeLoop (by decide) le_rfl hzero hres
    dsimp only at hsome
    split at hsome
    · cases hsome
    rename_i hlast
    obtain ⟨hskip, hv⟩ := Option.ite_none_right_eq_some.mp hsome
    cases hv
    obtain rfl := Nat.shiftLeft_eq_zero_iff.mp (not_not.mp hlast)
    have hbits := hdecodes.bits_eq
    rw [bits_zero] at hbits
    exact ⟨left, hdecodes.pos, hdecodes.le_eight, hdecodes.valid, hbits, hskip⟩
  · rintro ⟨left, hpos, hle, hvalid, hbits, hskip⟩
    obtain ⟨res, hres⟩ := decodeLoop_exists hvalid
    obtain ⟨v', last, left', rfl, hdecodes⟩ := decodes_of_decodeLoop (by decide) le_rfl hzero hres
    have hpos' := hdecodes.pos
    have hle' := hdecodes.le_eight
    have hsame : (v'.flatMap fun byte => bits 8 byte.toNat) ++ bits (8 - left') last =
        (v.flatMap fun byte => bits 8 byte.toNat) ++ replicate (8 - left) false := by
      rw [hdecodes.bits_eq, hbits, Nat.sub_self, bits, nil_append]
    have hshort : (bits (8 - left') last).length < 8 := by
      rw [length_bits]
      omega
    have hshort' : (replicate (8 - left) false).length < 8 := by
      rw [length_replicate]
      omega
    have hword : ∀ byte : UInt8, (bits 8 byte.toNat).length = 8 := fun byte => length_bits 8 _
    obtain ⟨rfl, hlast⟩ := flatMap_append_inj hword hshort hshort' (fun _ _ _ _ => byte_inj) hsame
    have hlen := congrArg length hlast
    rw [length_bits, length_replicate] at hlen
    obtain rfl : left' = left := by omega
    rw [← bits_zero] at hlast
    obtain rfl := bits_inj hdecodes.last_lt (Nat.two_pow_pos _) hlast
    rw [hres, Option.bind_some]
    dsimp only
    rw [Nat.zero_shiftLeft, if_neg (not_not.mpr rfl), if_pos hskip]

theorem encode_eq (data : List UInt8) :
    Encode enc data = (padding enc 8 (encodeLoop enc data 8).2).map
      ((encodeLoop enc data 8).1.map enc.Encode ++ ·) := by
  cases data with
  | nil =>
    unfold encodeLoop
    rfl
  | cons byte rest => rfl

/-- The encoder's loops as lengths: what padding has to do. -/
def PadsTo (enc : Encoding) : Prop :=
  ∀ size chars left, 0 < left → left ≤ 8 → 8 - left < enc.BITS_PER_CHAR →
    chars * enc.BITS_PER_CHAR = size * 8 + (8 - left) →
    ∃ pads, padding enc 8 left = some pads ∧ chars + pads.length = EncodedSize enc size

/-- The characters and the padding of the encoded bytes. -/
theorem encode_spec (hpads : PadsTo enc) (v : List UInt8) :
    ∃ chars left count, Encodes enc v 8 (chars, left) ∧
      padding enc 8 left = some (replicate count enc.PADDING) ∧
      Encode enc v = some (chars.map enc.Encode ++ replicate count enc.PADDING) ∧
      chars.length * enc.BITS_PER_CHAR = v.length * 8 + (8 - left) ∧
      chars.length + count = EncodedSize enc v.length := by
  have hencodes := @encodes_encodeLoop enc v 8 (by decide) le_rfl fun _ => rfl
  have hencode := @encode_eq enc v
  generalize encodeLoop enc v 8 = res at hencodes hencode
  obtain ⟨chars, left⟩ := res
  have hlen := congrArg length hencodes.bits_eq
  rw [stream_eight, length_append, length_replicate,
    length_flatMap_word (length_bits enc.BITS_PER_CHAR),
    length_flatMap_word fun byte : UInt8 => length_bits 8 byte.toNat] at hlen
  obtain ⟨pads, hsome, hsize⟩ :=
    hpads v.length _ left hencodes.pos hencodes.le_eight hencodes.zeros_lt hlen
  obtain ⟨count, rfl⟩ := @padding_of_skipPadding _ [] _ _ _ hsome rfl
  rw [nil_append] at hsome hsize
  rw [length_replicate] at hsize
  rw [hsome] at hencode
  exact ⟨chars, left, count, hencodes, hsome, hencode, hlen, hsize⟩

/-- Bytes are encoded to the size that is reserved, and decode from it. -/
def RoundTrips (enc : Encoding) : Prop :=
  ∀ v, ∃ data, Encode enc v = some data ∧ data.length = EncodedSize enc v.length ∧
    Decode enc data = some v

theorem roundTrips (hpads : PadsTo enc) : RoundTrips enc := by
  intro v
  obtain ⟨chars, left, count, hencodes, hsome, hencode, -, hsize⟩ := encode_spec hpads v
  refine ⟨_, hencode, ?_, ?_⟩
  · rw [length_append, length_map, length_replicate, hsize]
  obtain ⟨hchars, hrest⟩ := unpadded_append hencodes.chars_lt count
  have hdecode : ∀ v ∈ chars, enc.Decode (enc.Encode v) = v := fun v hmem =>
    enc.decode_encode v (hencodes.chars_lt v hmem)
  refine decode_eq_some_iff.mpr ⟨left, hencodes.pos, hencodes.le_eight, ?_, ?_, ?_⟩
  · rw [hchars, forall_mem_map]
    intro v hmem
    rw [hdecode v hmem]
    exact ((hencodes.chars_lt v hmem).trans_le enc.error_ge).ne
  · rw [hchars, flatMap_map, ← stream_eight]
    refine hencodes.bits_eq.symm.trans (congrArg flatten (map_congr_left fun v hmem => ?_))
    rw [hdecode v hmem]
  · rw [hrest]
    exact skipPadding_padding hsome

end GenericBaseEncoding

end AzerothCore.BaseEncoding

/-! ## Base32 and Base64 -/

namespace AzerothCore.BaseEncoding
open List GenericBaseEncoding

def B64Impl : Encoding where
  BITS_PER_CHAR := 6
  PADDING := '='
  DECODE_ERROR := 0xff
  Encode v :=
    if v < 26 then Char.ofNat ('A'.toNat + v)
    else if v < 52 then Char.ofNat ('a'.toNat + (v - 26))
    else if v < 62 then Char.ofNat ('0'.toNat + (v - 52))
    else if v = 62 then '+'
    else '/'
  Decode v :=
    if 'A'.toNat ≤ v.toNat ∧ v.toNat ≤ 'Z'.toNat then v.toNat - 'A'.toNat
    else if 'a'.toNat ≤ v.toNat ∧ v.toNat ≤ 'z'.toNat then v.toNat - 'a'.toNat + 26
    else if '0'.toNat ≤ v.toNat ∧ v.toNat ≤ '9'.toNat then v.toNat - '0'.toNat + 52
    else if v = '+' then 62
    else if v = '/' then 63
    else 0xff
  pos := by decide
  lt_eight := by decide
  decode_encode := by decide
  encode_ne := by decide
  decode_lt c hvalid := by
    simp only [Char.reduceToNat] at hvalid ⊢
    split_ifs at hvalid ⊢ <;> omega
  error_ge := by decide

def B32Impl : Encoding where
  BITS_PER_CHAR := 5
  PADDING := '='
  DECODE_ERROR := 0xff
  Encode v := if v < 26 then Char.ofNat ('A'.toNat + v) else Char.ofNat ('2'.toNat + (v - 26))
  Decode v :=
    let v := if v = '0' then 'O' else if v = '1' then 'l' else if v = '8' then 'B' else v
    if 'A'.toNat ≤ v.toNat ∧ v.toNat ≤ 'Z'.toNat then v.toNat - 'A'.toNat
    else if 'a'.toNat ≤ v.toNat ∧ v.toNat ≤ 'z'.toNat then v.toNat - 'a'.toNat
    else if '2'.toNat ≤ v.toNat ∧ v.toNat ≤ '7'.toNat then v.toNat - '2'.toNat + 26
    else 0xff
  pos := by decide
  lt_eight := by decide
  decode_encode := by decide
  encode_ne := by decide
  decode_lt c hvalid := by
    dsimp only at hvalid ⊢
    generalize (if c = '0' then 'O' else if c = '1' then 'l' else if c = '8' then 'B' else c) = v
      at hvalid ⊢
    simp only [Char.reduceToNat] at hvalid ⊢
    split_ifs at hvalid ⊢ <;> omega
  error_ge := by decide

theorem padsTo_b64 : PadsTo B64Impl := by
  intro size chars left hpos hle hzeros hchars
  have hsize : EncodedSize B64Impl size =
      (if size * 8 % 24 ≠ 0 then size * 8 + (24 - size * 8 % 24) else size * 8) / 6 := rfl
  rw [hsize]
  change 8 - left < 6 at hzeros
  change chars * 6 = size * 8 + (8 - left) at hchars
  obtain rfl | rfl | rfl : left = 4 ∨ left = 6 ∨ left = 8 := by omega
  · exact ⟨['=', '='], rfl, by rw [length_cons, length_singleton]; split <;> omega⟩
  · exact ⟨['='], rfl, by rw [length_singleton]; split <;> omega⟩
  · exact ⟨[], rfl, by rw [length_nil]; split <;> omega⟩

theorem padsTo_b32 : PadsTo B32Impl := by
  intro size chars left hpos hle hzeros hchars
  have hsize : EncodedSize B32Impl size =
      (if size * 8 % 40 ≠ 0 then size * 8 + (40 - size * 8 % 40) else size * 8) / 5 := rfl
  rw [hsize]
  change 8 - left < 5 at hzeros
  change chars * 5 = size * 8 + (8 - left) at hchars
  obtain rfl | rfl | rfl | rfl | rfl :
    left = 4 ∨ left = 5 ∨ left = 6 ∨ left = 7 ∨ left = 8 := by omega
  · exact ⟨replicate 4 '=', rfl, by rw [length_replicate]; split <;> omega⟩
  · exact ⟨replicate 1 '=', rfl, by rw [length_replicate]; split <;> omega⟩
  · exact ⟨replicate 6 '=', rfl, by rw [length_replicate]; split <;> omega⟩
  · exact ⟨replicate 3 '=', rfl, by rw [length_replicate]; split <;> omega⟩
  · exact ⟨replicate 0 '=', rfl, by rw [length_replicate]; split <;> omega⟩

theorem b64_encode_decode {c : Char} (hvalid : B64Impl.Decode c ≠ 0xff) :
    B64Impl.Encode (B64Impl.Decode c) = c := by
  have hself := Char.ofNat_toNat c
  simp only [B64Impl, Char.reduceToNat] at hvalid ⊢
  split at hvalid
  · rename_i hupper
    rw [if_pos hupper, if_pos (by omega), Nat.add_sub_cancel' hupper.1, hself]
  rename_i hupper
  rw [if_neg hupper]
  split at hvalid
  · rename_i hlower
    have hsum : 97 + (c.toNat - 97 + 26 - 26) = c.toNat := by omega
    rw [if_pos hlower, if_neg (by omega), if_pos (by omega), hsum, hself]
  rename_i hlower
  rw [if_neg hlower]
  split at hvalid
  · rename_i hdigit
    have hsum : 48 + (c.toNat - 48 + 52 - 52) = c.toNat := by omega
    rw [if_pos hdigit, if_neg (by omega), if_neg (by omega), if_pos (by omega), hsum, hself]
  rename_i hdigit
  rw [if_neg hdigit]
  split at hvalid
  · rename_i hplus
    rw [if_pos hplus, hplus]
    rfl
  rename_i hplus
  split at hvalid
  · rename_i hslash
    rw [if_neg hplus, if_pos hslash, hslash]
    rfl
  · exact absurd rfl hvalid

/-- The string is the encoding of the bytes, up to padding that is left out at its end. -/
def IsEncoding (enc : Encoding) (data : List Char) (v : List UInt8) : Prop :=
  ∃ count, Encode enc v = some (data ++ replicate count enc.PADDING)

theorem unpadded_append_padding {enc : Encoding} (data : List Char) (count : ℕ) :
    unpadded enc (data ++ replicate count enc.PADDING) = unpadded enc data := by
  induction data with
  | nil => cases count <;> simp [unpadded, replicate_succ]
  | cons c data ih =>
    by_cases hpad : c = enc.PADDING
    · rw [cons_append, unpadded, unpadded, takeWhile_cons_of_neg (by simp [hpad]),
        takeWhile_cons_of_neg (by simp [hpad])]
    · rw [cons_append, unpadded_cons hpad, unpadded_cons hpad, ih]

theorem isEncoding_iff {data : List Char} {v : List UInt8}
    (hdecode : Decode B64Impl data = some v) :
    IsEncoding B64Impl data v ↔ (unpadded B64Impl data).length % 4 ≠ 1 := by
  obtain ⟨left, hpos, hle, hvalid, hbits, hskip⟩ := decode_eq_some_iff.mp hdecode
  obtain ⟨chars, left', count, hencodes, hsome, hencode, hlength', -⟩ := encode_spec padsTo_b64 v
  obtain ⟨hchars, -⟩ := @unpadded_append B64Impl chars hencodes.chars_lt count
  have hlen := congrArg length hbits
  rw [length_append, length_replicate,
    length_flatMap_word fun c => length_bits B64Impl.BITS_PER_CHAR (B64Impl.Decode c),
    length_flatMap_word fun byte : UInt8 => length_bits 8 byte.toNat] at hlen
  change _ = (unpadded B64Impl data).length * 6 at hlen
  have hzeros : 8 - left' < 6 := hencodes.zeros_lt
  have hpos' := hencodes.pos
  have hle' := hencodes.le_eight
  change chars.length * 6 = _ at hlength'
  dsimp only at hpos' hle'
  constructor
  · rintro ⟨more, hmore⟩
    have hsame := congrArg (unpadded B64Impl) (Option.some.inj (hencode.symm.trans hmore))
    rw [hchars, unpadded_append_padding] at hsame
    rw [← hsame, length_map] at hlen ⊢
    omega
  · intro hlast
    have hleft : left = 4 ∨ left = 6 ∨ left = 8 := by omega
    obtain rfl : left = left' := by
      obtain rfl | rfl | rfl := hleft <;> omega
    have hdigits : ((unpadded B64Impl data).map B64Impl.Decode).flatMap (bits 6) =
        chars.flatMap (bits 6) := by
      rw [flatMap_map]
      refine hbits.symm.trans ?_
      rw [← stream_eight]
      exact hencodes.bits_eq.symm
    have hlt : ∀ v ∈ (unpadded B64Impl data).map B64Impl.Decode, v < 2 ^ 6 :=
      forall_mem_map.mpr fun c hmem => B64Impl.decode_lt c (hvalid c hmem)
    have hinj : ∀ x ∈ (unpadded B64Impl data).map B64Impl.Decode, ∀ y ∈ chars,
        bits 6 x = bits 6 y → x = y := fun x hx y hy =>
      bits_inj (hlt x hx) (hencodes.chars_lt y hy)
    rw [← append_nil (flatMap _ _), ← append_nil (chars.flatMap _)] at hdigits
    obtain ⟨rfl, -⟩ := flatMap_append_inj (length_bits 6) (by decide) (by decide) hinj hdigits
    obtain ⟨more, hpads⟩ := padding_of_skipPadding hsome hskip
    have hself : ((unpadded B64Impl data).map B64Impl.Decode).map B64Impl.Encode =
        unpadded B64Impl data := by
      rw [map_map]
      exact (map_congr_left fun c hmem => b64_encode_decode (hvalid c hmem)).trans (map_id _)
    refine ⟨more, hencode.trans (congrArg some ?_)⟩
    rw [hpads, ← append_assoc]
    refine congrArg (· ++ _) ?_
    exact (congrArg (· ++ _) hself).trans takeWhile_append_dropWhile

/-- Both alphabets round trip. A string of Base64 that decodes is the encoding, unless its
last character before the padding is the first one of a group. -/
theorem base64_exact (data : List Char) (v : List UInt8) :
    RoundTrips B32Impl ∧ RoundTrips B64Impl ∧ (Decode B64Impl data = some v →
      (IsEncoding B64Impl data v ↔ (unpadded B64Impl data).length % 4 ≠ 1)) :=
  ⟨roundTrips padsTo_b32, roundTrips padsTo_b64, isEncoding_iff⟩

theorem base64_exact_padded :
    IsEncoding B64Impl ['Q', 'Q', '='] [65] ↔ (unpadded B64Impl ['Q', 'Q', '=']).length % 4 ≠ 1 :=
  (base64_exact ['Q', 'Q', '='] [65]).2.2 (by decide)

/-- A single character decodes to no bytes, as the empty string does. -/
theorem base64_dangling : ¬(RoundTrips B32Impl ∧ RoundTrips B64Impl ∧
      ∀ data v, Decode B64Impl data = some v → IsEncoding B64Impl data v) := by
  rintro ⟨-, -, hunique⟩
  obtain ⟨count, hencode⟩ := hunique ['A'] [] (by decide)
  cases hencode

end AzerothCore.BaseEncoding
