import CommitRules.Text.Utf8

/-!
# CommitRules.Proofs.Encoding

Strict reading undoes writing and reads nothing else, and lossy reading is strict reading that goes
on behind a fault.

* `piece_encodeChar`: the bytes of a character are read as this character, whatever follows.
* `decodeChars_encode`: the bytes of a text are read as the characters of the text.
* `decodeChars_iff`: bytes are read strictly as a text if they are written for it, and only then.
* `decodes_iff`: lossy reading gives what strict reading gives between the malformed sequences, and
  a replacement character for each of them.
-/

namespace CommitRules.Text.Utf8

/-! ## Bytes -/

theorem toList_loop (bytes : ByteArray) (i : Nat) (acc : List UInt8) :
    ByteArray.toList.loop bytes i acc = acc.reverse ++ bytes.data.toList.drop i := by
  induction h : bytes.size - i generalizing i acc with
  | zero =>
    have hi : ¬ i < bytes.size := by omega
    have hdrop : bytes.data.toList.drop i = [] :=
      List.drop_eq_nil_of_le (by rw [Array.length_toList]; exact Nat.not_lt.1 hi)
    rw [ByteArray.toList.loop, if_neg hi, hdrop, List.append_nil]
  | succ n ih =>
    have hi : i < bytes.size := by omega
    have hlt : i < bytes.data.toList.length := by rw [Array.length_toList]; exact hi
    have hget : bytes.get! i = bytes.data.toList[i] := by
      have hdata : bytes.get! i = bytes.data[i]! := rfl
      rw [hdata, getElem!_pos bytes.data i hi, Array.getElem_toList]
    rw [ByteArray.toList.loop, if_pos hi, ih (i + 1) _ (by omega), List.drop_eq_getElem_cons hlt,
      hget]
    simp

theorem encode_eq (text : String) :
    encode text = text.toList.flatMap String.utf8EncodeChar := by
  rw [encode, ByteArray.toList, toList_loop, String.toUTF8_eq_toByteArray,
    ← String.utf8Encode_toList, List.utf8Encode, List.toList_data_toByteArray]
  rfl

/-! ## Characters -/

section Character

variable {n : Nat}

theorem toNat_ofNat (h : n < 256) : (UInt8.ofNat n).toNat = n := UInt8.toNat_ofNat_of_lt' h

theorem isTail_iff {b : UInt8} : isTail b = true ↔ 0x80 ≤ b.toNat ∧ b.toNat ≤ 0xBF := by
  simp only [isTail, Bool.and_eq_true, decide_eq_true_eq, UInt8.le_iff_toNat_le, UInt8.reduceToNat]

theorem isTail_ofNat (n : Nat) : isTail (UInt8.ofNat (n % 64 + 128)) = true := by
  rw [isTail_iff, toNat_ofNat (by omega)]
  omega

theorem tailBits_ofNat (n : Nat) : tailBits (UInt8.ofNat (n % 64 + 128)) = n % 64 := by
  rw [tailBits, toNat_ofNat (by omega)]
  omega

theorem isSecond_iff {a b : UInt8} : isSecond a b = true ↔
    0x80 ≤ b.toNat ∧ b.toNat ≤ 0xBF ∧ (a.toNat = 0xE0 → 0xA0 ≤ b.toNat) ∧
      (a.toNat = 0xED → b.toNat ≤ 0x9F) ∧ (a.toNat = 0xF0 → 0x90 ≤ b.toNat) ∧
        (a.toNat = 0xF4 → b.toNat ≤ 0x8F) := by
  simp only [isSecond, secondBounds, Bool.and_eq_true, decide_eq_true_eq, UInt8.le_iff_toNat_le,
    ← UInt8.toNat_inj, UInt8.reduceToNat]
  repeat' split
  all_goals
    simp only [UInt8.reduceToNat]
    omega

theorem isSecond_ofNat {a b : Nat} (ha : a < 256) (hb : b < 256) (hlow : 0x80 ≤ b)
    (hhigh : b ≤ 0xBF) (hE0 : a = 0xE0 → 0xA0 ≤ b) (hED : a = 0xED → b ≤ 0x9F)
    (hF0 : a = 0xF0 → 0x90 ≤ b) (hF4 : a = 0xF4 → b ≤ 0x8F) :
    isSecond (UInt8.ofNat a) (UInt8.ofNat b) = true := by
  rw [isSecond_iff, toNat_ofNat ha, toNat_ofNat hb]
  exact ⟨hlow, hhigh, hE0, hED, hF0, hF4⟩

/-- The first byte tells how many bytes there are. -/
theorem piece_ofNat (h : n < 256) (rest : List UInt8) :
    piece (UInt8.ofNat n) rest =
      if n < 0x80 then .char (Char.ofNat n) 0
      else if n < 0xC2 then .fault .invalidStart 0
      else if n < 0xE0 then piece2 (UInt8.ofNat n) rest
      else if n < 0xF0 then piece3 (UInt8.ofNat n) rest
      else if n < 0xF5 then piece4 (UInt8.ofNat n) rest
      else .fault .invalidStart 0 := by
  simp only [piece, UInt8.lt_iff_toNat_lt, toNat_ofNat h, UInt8.reduceToNat]

theorem piece_two (hlow : 0x80 ≤ n) (hhigh : n ≤ 0x7FF) (rest : List UInt8) :
    piece (UInt8.ofNat (n / 64 % 32 + 192)) (UInt8.ofNat (n % 64 + 128) :: rest) =
      .char (Char.ofNat n) 1 := by
  have hfirst : n / 64 % 32 + 192 < 256 := by omega
  have hcode : (n / 64 % 32 + 192) % 32 * 64 + n % 64 = n := by omega
  rw [piece_ofNat hfirst, if_neg (by omega), if_neg (by omega), if_pos (by omega), piece2,
    isTail_ofNat, if_pos rfl, tailBits_ofNat, toNat_ofNat hfirst, hcode]

theorem piece_three (hlow : 0x800 ≤ n) (hhigh : n ≤ 0xFFFF) (hhalf : n < 0xD800 ∨ 0xDFFF < n)
    (rest : List UInt8) :
    piece (UInt8.ofNat (n / 4096 % 16 + 224))
        (UInt8.ofNat (n / 64 % 64 + 128) :: UInt8.ofNat (n % 64 + 128) :: rest) =
      .char (Char.ofNat n) 2 := by
  have hfirst : n / 4096 % 16 + 224 < 256 := by omega
  have hsecond : isSecond (UInt8.ofNat (n / 4096 % 16 + 224)) (UInt8.ofNat (n / 64 % 64 + 128)) =
      true := isSecond_ofNat hfirst (by omega) (by omega) (by omega) (by omega) (by omega)
        (by omega) (by omega)
  have hcode : ((n / 4096 % 16 + 224) % 16 * 64 + n / 64 % 64) * 64 + n % 64 = n := by omega
  rw [piece_ofNat hfirst, if_neg (by omega), if_neg (by omega), if_neg (by omega),
    if_pos (by omega), piece3, hsecond, isTail_ofNat, tailBits_ofNat, tailBits_ofNat,
    toNat_ofNat hfirst, hcode]
  rfl

theorem piece_four (hlow : 0x10000 ≤ n) (hhigh : n < 0x110000) (rest : List UInt8) :
    piece (UInt8.ofNat (n / 262144 % 8 + 240))
        (UInt8.ofNat (n / 4096 % 64 + 128) :: UInt8.ofNat (n / 64 % 64 + 128) ::
          UInt8.ofNat (n % 64 + 128) :: rest) =
      .char (Char.ofNat n) 3 := by
  have hfirst : n / 262144 % 8 + 240 < 256 := by omega
  have hsecond : isSecond (UInt8.ofNat (n / 262144 % 8 + 240))
      (UInt8.ofNat (n / 4096 % 64 + 128)) = true :=
    isSecond_ofNat hfirst (by omega) (by omega) (by omega) (by omega) (by omega) (by omega)
      (by omega)
  have hcode : (((n / 262144 % 8 + 240) % 8 * 64 + n / 4096 % 64) * 64 + n / 64 % 64) * 64 +
      n % 64 = n := by omega
  rw [piece_ofNat hfirst, if_neg (by omega), if_neg (by omega), if_neg (by omega),
    if_neg (by omega), if_pos (by omega), piece4, hsecond, isTail_ofNat, isTail_ofNat,
    tailBits_ofNat, tailBits_ofNat, tailBits_ofNat, toNat_ofNat hfirst, hcode]
  rfl

theorem encodeChar_ofNat (h : n < 0xD800 ∨ 0xDFFF < n ∧ n < 0x110000) :
    String.utf8EncodeChar (Char.ofNat n) =
      if n ≤ 0x7F then [UInt8.ofNat n]
      else if n ≤ 0x7FF then [UInt8.ofNat (n / 64 % 32 + 192), UInt8.ofNat (n % 64 + 128)]
      else if n ≤ 0xFFFF then
        [UInt8.ofNat (n / 4096 % 16 + 224), UInt8.ofNat (n / 64 % 64 + 128),
          UInt8.ofNat (n % 64 + 128)]
      else
        [UInt8.ofNat (n / 262144 % 8 + 240), UInt8.ofNat (n / 4096 % 64 + 128),
          UInt8.ofNat (n / 64 % 64 + 128), UInt8.ofNat (n % 64 + 128)] := by
  have hn : (Char.ofNat n).val.toNat = n := by
    rw [Char.ofNat, dif_pos h]
    rfl
  simp only [String.utf8EncodeChar, hn]

/-- What is written for a character is read as this character, whatever follows. -/
theorem piece_encodeChar (c : Char) : ∃ first others, String.utf8EncodeChar c = first :: others ∧
    ∀ rest, piece first (others ++ rest) = .char c others.length := by
  have hvalid : c.toNat < 0xD800 ∨ 0xDFFF < c.toNat ∧ c.toNat < 0x110000 := c.valid
  have hcode : Char.ofNat c.toNat = c := Char.ofNat_toNat c
  rw [← hcode]
  generalize c.toNat = n at hvalid
  rw [encodeChar_ofNat hvalid]
  by_cases h1 : n ≤ 127
  · rw [if_pos h1]
    refine ⟨_, _, rfl, fun rest => ?_⟩
    rw [piece_ofNat (by omega), if_pos (by omega)]
    rfl
  · rw [if_neg h1]
    by_cases h2 : n ≤ 2047
    · rw [if_pos h2]
      exact ⟨_, _, rfl, fun rest => piece_two (by omega) h2 rest⟩
    · rw [if_neg h2]
      by_cases h3 : n ≤ 65535
      · rw [if_pos h3]
        exact ⟨_, _, rfl, fun rest => piece_three (by omega) h3 (by omega) rest⟩
      · rw [if_neg h3]
        exact ⟨_, _, rfl, fun rest => piece_four (by omega) (by omega) rest⟩

end Character

/-! ## Texts -/

theorem decodeFrom_encoded (start : Nat) (chars acc : List Char) :
    decodeFrom start (chars.flatMap String.utf8EncodeChar) acc = .ok (acc.reverse ++ chars) := by
  induction chars generalizing start acc with
  | nil =>
    rw [List.flatMap_nil, decodeFrom, List.append_nil]
  | cons c chars ih =>
    obtain ⟨first, others, hbytes, hpiece⟩ := piece_encodeChar c
    rw [List.flatMap_cons, hbytes, List.cons_append, decodeFrom, hpiece]
    dsimp only
    rw [List.drop_left, ih, List.reverse_cons, List.append_assoc]
    rfl

theorem decodeChars_encode (text : String) : decodeChars (encode text) = .ok text.toList := by
  rw [decodeChars, encode_eq, decodeFrom_encoded]
  rfl

/-! ## Lossy reading -/

/-- A fault some bytes further on. -/
def Fault.shift (fault : Fault) (offset : Nat) : Fault :=
  { fault with first := offset + fault.first, last := offset + fault.last }

section Lossy

variable {a : UInt8} {rest : List UInt8} {c : Char} {more : Nat}

theorem decodeFrom_eq (start : Nat) (bytes : List UInt8) (acc : List Char) :
    decodeFrom start bytes acc =
      match decodeChars bytes with
      | .ok chars => .ok (acc.reverse ++ chars)
      | .error fault => .error (fault.shift start) := by
  unfold decodeChars
  induction bytes using decodeLossy.induct generalizing start acc with
  | case1 => simp [decodeFrom]
  | case2 a rest c more hpiece ih =>
    rw [decodeFrom, decodeFrom, hpiece]
    dsimp only
    rw [ih, ih (0 + 1 + more)]
    cases decodeFrom 0 (rest.drop more) [] with
    | ok chars => simp
    | error fault => simp [Fault.shift, Nat.add_assoc]
  | case3 a rest reason more hpiece ih =>
    rw [decodeFrom, decodeFrom, hpiece]
    simp [Fault.shift]

theorem decodeChars_nil : decodeChars [] = .ok [] := by
  rw [decodeChars, decodeFrom]
  rfl

theorem decodeChars_char (h : piece a rest = .char c more) :
    decodeChars (a :: rest) =
      match decodeChars (rest.drop more) with
      | .ok chars => .ok (c :: chars)
      | .error fault => .error (fault.shift (1 + more)) := by
  rw [decodeChars, decodeFrom, h]
  dsimp only
  rw [decodeFrom_eq, Nat.zero_add]
  rfl

theorem decodeChars_fault {reason : Reason} (h : piece a rest = .fault reason more) :
    decodeChars (a :: rest) = .error ⟨reason, a, 0, more⟩ := by
  rw [decodeChars, decodeFrom, h]
  simp

/-- The bytes of a character are read as this character whatever stands behind them. -/
def ReadsOwn (read : List UInt8 → Piece) (rest : List UInt8) (c : Char) (more : Nat) : Prop :=
  ∃ own behind, rest = own ++ behind ∧ own.length = more ∧
    ∀ other, read (own ++ other) = .char c more

theorem readsOwn_piece2 (h : piece2 a rest = .char c more) : ReadsOwn (piece2 a) rest c more := by
  match rest with
  | [] => cases h
  | b :: behind =>
    have hall : ∀ other, piece2 a (b :: other) = .char c more := fun _ => h
    rw [piece2] at h
    split at h
    · cases h
      exact ⟨[b], behind, rfl, rfl, hall⟩
    · cases h

theorem readsOwn_piece3 (h : piece3 a rest = .char c more) : ReadsOwn (piece3 a) rest c more := by
  match rest with
  | [] => cases h
  | [b] =>
    rw [piece3] at h
    split at h <;> cases h
  | b :: b' :: behind =>
    have hall : ∀ other, piece3 a (b :: b' :: other) = .char c more := fun _ => h
    rw [piece3] at h
    split at h
    · cases h
    · split at h
      · cases h
      · cases h
        exact ⟨[b, b'], behind, rfl, rfl, hall⟩

theorem readsOwn_piece4 (h : piece4 a rest = .char c more) : ReadsOwn (piece4 a) rest c more := by
  match rest with
  | [] => cases h
  | [b] =>
    rw [piece4] at h
    split at h <;> cases h
  | [b, b'] =>
    rw [piece4] at h
    split at h
    · cases h
    · split at h <;> cases h
  | b :: b' :: b'' :: behind =>
    have hall : ∀ other, piece4 a (b :: b' :: b'' :: other) = .char c more := fun _ => h
    rw [piece4] at h
    split at h
    · cases h
    · split at h
      · cases h
      · split at h
        · cases h
        · cases h
          exact ⟨[b, b', b''], behind, rfl, rfl, hall⟩

theorem readsOwn_piece (h : piece a rest = .char c more) : ReadsOwn (piece a) rest c more := by
  unfold piece at h
  unfold ReadsOwn piece
  split at h
  · next h1 =>
    cases h
    exact ⟨[], rest, rfl, rfl, fun _ => if_pos h1⟩
  · next h1 =>
    simp only [if_neg h1]
    split at h
    · cases h
    · next h2 =>
      simp only [if_neg h2]
      split at h
      · next h3 =>
        simp only [if_pos h3]
        exact readsOwn_piece2 h
      · next h3 =>
        simp only [if_neg h3]
        split at h
        · next h4 =>
          simp only [if_pos h4]
          exact readsOwn_piece3 h
        · next h4 =>
          simp only [if_neg h4]
          split at h
          · next h5 =>
            simp only [if_pos h5]
            exact readsOwn_piece4 h
          · cases h

/-- What bytes are read as when each malformed sequence is replaced: what strict reading gives up to
where it stops, a replacement character, and so on behind the sequence. -/
inductive Decodes : List UInt8 → List Char → Prop where
  | whole {bytes : List UInt8} {chars : List Char} (hall : decodeChars bytes = .ok chars) :
      Decodes bytes chars
  | replaced {bytes : List UInt8} {fault : Fault} {before behind : List Char}
      (hstop : decodeChars bytes = .error fault)
      (hbefore : decodeChars (bytes.take fault.first) = .ok before)
      (hbehind : Decodes (bytes.drop (fault.last + 1)) behind) :
      Decodes bytes (before ++ replacement :: behind)

theorem Decodes.char {chars : List Char} (h : piece a rest = .char c more)
    (hrest : Decodes (rest.drop more) chars) : Decodes (a :: rest) (c :: chars) := by
  have hchars := decodeChars_char h
  cases hrest with
  | whole hall =>
    rw [hall] at hchars
    exact .whole hchars
  | @replaced _ fault before behind hstop hbefore hbehind =>
    rw [hstop] at hchars
    refine @Decodes.replaced _ _ (c :: before) _ hchars ?_ ?_
    · obtain ⟨own, others, rfl, rfl, hown⟩ := readsOwn_piece h
      rw [List.drop_left] at hbefore
      have htake : (a :: (own ++ others)).take (1 + own.length + fault.first) =
          a :: (own ++ others.take fault.first) := by
        rw [Nat.add_assoc, Nat.add_comm 1, List.take_succ_cons, List.take_length_add_append]
      have hlocal := decodeChars_char (hown (others.take fault.first))
      rw [List.drop_left, hbefore] at hlocal
      exact htake ▸ hlocal
    · have hdrop : (a :: rest).drop (1 + more + fault.last + 1) =
          (rest.drop more).drop (fault.last + 1) := by
        rw [List.drop_succ_cons, List.drop_drop]
        congr 1
        omega
      exact hdrop ▸ hbehind

theorem decodes_decodeLossy (bytes : List UInt8) : Decodes bytes (decodeLossy bytes) := by
  induction bytes using decodeLossy.induct with
  | case1 =>
    rw [decodeLossy]
    exact .whole decodeChars_nil
  | case2 a rest c more hpiece ih =>
    rw [decodeLossy, hpiece]
    exact ih.char hpiece
  | case3 a rest reason more hpiece ih =>
    rw [decodeLossy, hpiece]
    exact .replaced (decodeChars_fault hpiece) decodeChars_nil ih

theorem Decodes.unique {bytes : List UInt8} {chars others : List Char} (h : Decodes bytes chars)
    (hothers : Decodes bytes others) : chars = others := by
  induction h generalizing others with
  | whole hall =>
    cases hothers with
    | whole hother =>
      rw [hall] at hother
      exact Except.ok.inj hother
    | replaced hstop =>
      rw [hall] at hstop
      cases hstop
  | replaced hstop hbefore _ ih =>
    cases hothers with
    | whole hother =>
      rw [hstop] at hother
      cases hother
    | replaced hother hbefore' hbehind' =>
      rw [hstop] at hother
      cases hother
      rw [hbefore] at hbefore'
      rw [ih hbehind', Except.ok.inj hbefore']

/-- Lossy reading is strict reading with every malformed sequence replaced. -/
theorem decodes_iff {bytes : List UInt8} {chars : List Char} :
    Decodes bytes chars ↔ chars = decodeLossy bytes := by
  constructor
  · intro h
    exact h.unique (decodes_decodeLossy bytes)
  · rintro rfl
    exact decodes_decodeLossy bytes

end Lossy

/-! ## Bytes that are read -/

section Strict

variable {a : UInt8} {rest : List UInt8} {c : Char} {more : Nat}

theorem ofNat_eq {n : Nat} {b : UInt8} (h : n = b.toNat) : UInt8.ofNat n = b := by
  rw [h, UInt8.ofNat_toNat]

theorem encodeChar_of_piece2 (hlow : 0xC2 ≤ a.toNat) (hhigh : a.toNat < 0xE0)
    (h : piece2 a rest = .char c more) : String.utf8EncodeChar c = a :: rest.take more := by
  match rest with
  | [] => cases h
  | b :: rest =>
    rw [piece2] at h
    split at h
    · next htail =>
      obtain ⟨hb, hb'⟩ := isTail_iff.1 htail
      cases h
      simp only [tailBits]
      rw [encodeChar_ofNat (by omega), if_neg (by omega), if_pos (by omega),
        ofNat_eq (by omega : _ = a.toNat), ofNat_eq (by omega : _ = b.toNat)]
      rfl
    · cases h

theorem encodeChar_of_piece3 (hlow : 0xE0 ≤ a.toNat) (hhigh : a.toNat < 0xF0)
    (h : piece3 a rest = .char c more) : String.utf8EncodeChar c = a :: rest.take more := by
  match rest with
  | [] => cases h
  | [b] =>
    rw [piece3] at h
    split at h <;> cases h
  | b :: b' :: rest =>
    rw [piece3] at h
    split at h
    · cases h
    · next hsecond =>
      split at h
      · cases h
      · next htail =>
        obtain ⟨hb, hb', hE0, hED, -, -⟩ := isSecond_iff.1 (by simpa using hsecond)
        obtain ⟨hc, hc'⟩ := isTail_iff.1 (by simpa using htail)
        cases h
        simp only [tailBits]
        rw [encodeChar_ofNat (by omega), if_neg (by omega), if_neg (by omega), if_pos (by omega),
          ofNat_eq (by omega : _ = a.toNat), ofNat_eq (by omega : _ = b.toNat),
          ofNat_eq (by omega : _ = b'.toNat)]
        rfl

theorem encodeChar_of_piece4 (hlow : 0xF0 ≤ a.toNat) (hhigh : a.toNat < 0xF5)
    (h : piece4 a rest = .char c more) : String.utf8EncodeChar c = a :: rest.take more := by
  match rest with
  | [] => cases h
  | [b] =>
    rw [piece4] at h
    split at h <;> cases h
  | [b, b'] =>
    rw [piece4] at h
    split at h
    · cases h
    · split at h <;> cases h
  | b :: b' :: b'' :: rest =>
    rw [piece4] at h
    split at h
    · cases h
    · next hsecond =>
      split at h
      · cases h
      · next htail =>
        split at h
        · cases h
        · next htail' =>
          obtain ⟨hb, hb', -, -, hF0, hF4⟩ := isSecond_iff.1 (by simpa using hsecond)
          obtain ⟨hc, hc'⟩ := isTail_iff.1 (by simpa using htail)
          obtain ⟨hd, hd'⟩ := isTail_iff.1 (by simpa using htail')
          cases h
          simp only [tailBits]
          rw [encodeChar_ofNat (by omega), if_neg (by omega), if_neg (by omega),
            if_neg (by omega), ofNat_eq (by omega : _ = a.toNat),
            ofNat_eq (by omega : _ = b.toNat), ofNat_eq (by omega : _ = b'.toNat),
            ofNat_eq (by omega : _ = b''.toNat)]
          rfl

/-- What is read as a character is what is written for it. -/
theorem encodeChar_of_piece (h : piece a rest = .char c more) :
    String.utf8EncodeChar c = a :: rest.take more := by
  simp only [piece, UInt8.lt_iff_toNat_lt, UInt8.reduceToNat] at h
  split at h
  · next h1 =>
    cases h
    rw [encodeChar_ofNat (by omega), if_pos (by omega), UInt8.ofNat_toNat]
    rfl
  · split at h
    · cases h
    · next h2 =>
      split at h
      · next h3 => exact encodeChar_of_piece2 (by omega) h3 h
      · next h3 =>
        split at h
        · next h4 => exact encodeChar_of_piece3 (by omega) h4 h
        · next h4 =>
          split at h
          · next h5 => exact encodeChar_of_piece4 (by omega) h5 h
          · cases h

theorem eq_flatMap_of_decodeChars {bytes : List UInt8} {chars : List Char}
    (h : decodeChars bytes = .ok chars) : bytes = chars.flatMap String.utf8EncodeChar := by
  induction bytes using decodeLossy.induct generalizing chars with
  | case1 =>
    rw [decodeChars_nil] at h
    cases h
    rfl
  | case2 a rest c more hpiece ih =>
    rw [decodeChars_char hpiece] at h
    split at h
    · next others hothers =>
      cases h
      rw [List.flatMap_cons, ← ih hothers, encodeChar_of_piece hpiece, List.cons_append,
        List.take_append_drop]
    · cases h
  | case3 a rest reason more hpiece ih =>
    rw [decodeChars_fault hpiece] at h
    cases h

/-- Bytes are read strictly as the text that they are written for, if there is one. -/
theorem decodeChars_iff {bytes : List UInt8} {chars : List Char} :
    decodeChars bytes = .ok chars ↔ bytes = encode (String.ofList chars) := by
  constructor
  · intro h
    rw [encode_eq, String.toList_ofList]
    exact eq_flatMap_of_decodeChars h
  · rintro rfl
    rw [decodeChars_encode, String.toList_ofList]

/-- Whether bytes are written for a text. -/
def IsText (bytes : List UInt8) : Prop := ∃ text, bytes = encode text

theorem isText_iff {bytes : List UInt8} :
    IsText bytes ↔ ∃ chars, decodeChars bytes = .ok chars := by
  constructor
  · rintro ⟨text, rfl⟩
    exact ⟨text.toList, decodeChars_encode text⟩
  · rintro ⟨chars, h⟩
    exact ⟨String.ofList chars, decodeChars_iff.1 h⟩

end Strict

end CommitRules.Text.Utf8
