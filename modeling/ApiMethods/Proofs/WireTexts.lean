/-
  ApiMethods.Proofs.WireTexts
  ───────────────────────────
  **VALUES ON THE WIRE ARE READ BACK, AND STAY WHERE THEY WERE PUT.**

  A component is written byte by byte (`encodeChars_eq_flatMap`), and reading the escapes
  gives the bytes back, which are the UTF-8 form of the text (`decode?_encodeChars`).  What is
  written has letters, digits, `-_.~` and escapes only, so none of the delimiters

      in a form          `&` between the pairs, `=` between key and value
      in a cookie        `;` and a space between the pairs, `=` behind the name

  can come from a value: `written_values_read_back`.  The names of cookies stand as they are, and
  may have delimiters; a header is read by who knows its names.
-/
import ApiMethods.Proofs.Identifiers
import ApiMethods.Text.Split
import ApiMethods.Wire.Percent
import Mathlib.Data.List.Forall2

namespace ApiMethods.Wire

/-! ## §1. Byte by byte. -/

/-- What stands for a byte: itself when it is an unreserved character, or else an escape. -/
def encodeByte (b : UInt8) : List Char :=
  if isUnreserved (Char.ofNat b.toNat) then [Char.ofNat b.toNat] else escapeByte b

theorem isUnreserved_iff {c : Char} :
    isUnreserved c = true ↔ c.isAlphanum = true ∨ c ∈ ['-', '_', '.', '~'] := by
  simp [isUnreserved, or_assoc]

/-- Unreserved characters are ASCII. -/
theorem toNat_lt_of_isUnreserved {c : Char} (h : isUnreserved c = true) : c.toNat < 128 := by
  rcases isUnreserved_iff.mp h with halnum | hmark
  · have hrange := Name.isAlphanum_iff.mp halnum
    omega
  · simp only [List.mem_cons, List.not_mem_nil, or_false] at hmark
    rcases hmark with rfl | rfl | rfl | rfl <;> decide

/-- An ASCII character is one byte, which is its code. -/
theorem utf8EncodeChar_of_lt {c : Char} (h : c.toNat < 128) :
    String.utf8EncodeChar c = [UInt8.ofNat c.toNat] :=
  if_pos (Nat.le_of_lt_succ h)

/-- The bytes of every other character are not ASCII. -/
theorem le_of_mem_utf8EncodeChar {c : Char} (h : 128 ≤ c.toNat) :
    ∀ b ∈ String.utf8EncodeChar c, 128 ≤ b.toNat := by
  have hascii : ¬ c.val.toNat ≤ 127 := Nat.not_le.mpr h
  unfold String.utf8EncodeChar
  simp only [if_neg hascii]
  -- two, three or four bytes, and the highest bit of each is set
  split_ifs <;> simp only [List.forall_mem_cons, UInt8.toNat_ofNat', List.not_mem_nil,
    IsEmpty.forall_iff, implies_true, and_true] <;> omega

/-- Every byte is the code of a character. -/
theorem toNat_ofNat_toNat (b : UInt8) : (Char.ofNat b.toNat).toNat = b.toNat := by
  have hb := b.toNat_lt
  exact Text.toNat_ofNat (.inl (by omega))

theorem encodeByte_of_le {b : UInt8} (h : 128 ≤ b.toNat) : encodeByte b = escapeByte b := by
  refine if_neg fun hunreserved => ?_
  have hlt := toNat_lt_of_isUnreserved hunreserved
  rw [toNat_ofNat_toNat] at hlt
  omega

/-- **A COMPONENT IS WRITTEN BYTE BY BYTE.** -/
theorem encodeChars_eq_flatMap (cs : List Char) :
    encodeChars cs = (cs.flatMap String.utf8EncodeChar).flatMap encodeByte := by
  have hchar : ∀ c, encodeChar c = (String.utf8EncodeChar c).flatMap encodeByte := by
    intro c
    -- an unreserved character is one byte; the bytes of what is not ASCII are all escaped
    rcases Nat.lt_or_ge c.toNat 128 with hascii | hmore
    · have hbyte : Char.ofNat (UInt8.ofNat c.toNat).toNat = c := by
        rw [UInt8.toNat_ofNat', Nat.mod_eq_of_lt (by omega), Char.ofNat_toNat]
      rw [encodeChar, utf8EncodeChar_of_lt hascii, List.flatMap_singleton,
        List.flatMap_singleton, encodeByte, hbyte]
    · have hreserved : ¬ isUnreserved c = true := fun hunreserved =>
        Nat.not_le.mpr (toNat_lt_of_isUnreserved hunreserved) hmore
      rw [encodeChar, if_neg hreserved]
      exact List.flatMap_congr fun b hb =>
        (encodeByte_of_le (le_of_mem_utf8EncodeChar hmore b hb)).symm
  rw [List.flatMap_assoc]
  exact List.flatMap_congr fun c _ => hchar c

/-! ## §2. Reading escapes. -/

/-- The digits of escapes. -/
def hexDigits : List Char := "0123456789ABCDEF".toList

/-- The value of a hexadecimal digit, in either case. -/
def hexValue? (c : Char) : Option Nat := hexDigits.idxOf? c.toUpper

/-- The bytes of a text in which escapes stand for bytes.  A `%` without two digits behind it is a
character like every other one. -/
def decodeBytes : List Char → List UInt8
  | '%' :: m :: n :: rest =>
    match hexValue? m, hexValue? n with
    | some high, some low => UInt8.ofNat (16 * high + low) :: decodeBytes rest
    | _, _ => String.utf8EncodeChar '%' ++ decodeBytes (m :: n :: rest)
  | c :: rest => String.utf8EncodeChar c ++ decodeBytes rest
  | [] => []

/-- The text that is written with escapes, unless its bytes are not UTF-8. -/
def decode? (cs : List Char) : Option String := String.fromUTF8? (decodeBytes cs).toByteArray

/-- The numbers below sixteen have a digit each. -/
theorem hexDigit_spec : ∀ n < 16, hexDigit n ∈ hexDigits ∧ hexValue? (hexDigit n) = some n := by
  decide

/-- The halves of a byte are digits. -/
theorem halves_lt (b : UInt8) : b.toNat / 16 < 16 ∧ b.toNat % 16 < 16 := by
  have hb := b.toNat_lt
  omega

theorem decodeBytes_cons_of_ne {c : Char} (h : c ≠ '%') (rest : List Char) :
    decodeBytes (c :: rest) = String.utf8EncodeChar c ++ decodeBytes rest := by
  rw [decodeBytes]
  rintro m n more rfl
  exact absurd rfl h

/-- An escape is read as the byte that it was made from. -/
theorem decodeBytes_escapeByte (b : UInt8) (rest : List Char) :
    decodeBytes (escapeByte b ++ rest) = b :: decodeBytes rest := by
  obtain ⟨hhigh, hlow⟩ := halves_lt b
  show decodeBytes ('%' :: hexDigit (b.toNat / 16) :: hexDigit (b.toNat % 16) :: rest) = _
  simp only [decodeBytes, (hexDigit_spec _ hhigh).2, (hexDigit_spec _ hlow).2]
  rw [Nat.div_add_mod, UInt8.ofNat_toNat]

theorem decodeBytes_encodeByte (b : UInt8) (rest : List Char) :
    decodeBytes (encodeByte b ++ rest) = b :: decodeBytes rest := by
  unfold encodeByte
  split
  · rename_i hunreserved
    have hne : Char.ofNat b.toNat ≠ '%' := by
      intro hpercent
      rw [hpercent] at hunreserved
      exact absurd hunreserved (by decide)
    show decodeBytes (Char.ofNat b.toNat :: rest) = _
    rw [decodeBytes_cons_of_ne hne, utf8EncodeChar_of_lt (toNat_lt_of_isUnreserved hunreserved),
      toNat_ofNat_toNat, UInt8.ofNat_toNat, List.singleton_append]
  · exact decodeBytes_escapeByte b rest

/-- Whatever the bytes are, they are read back. -/
theorem decodeBytes_flatMap_encodeByte (bs : List UInt8) :
    decodeBytes (bs.flatMap encodeByte) = bs := by
  induction bs with
  | nil => rfl
  | cons b bs ih => rw [List.flatMap_cons, decodeBytes_encodeByte, ih]

/-- **A COMPONENT IS READ BACK.** -/
theorem decode?_encodeChars (s : String) : decode? (encodeChars s.toList) = some s := by
  have hbytes : (decodeBytes (encodeChars s.toList)).toByteArray = s.toByteArray := by
    rw [encodeChars_eq_flatMap, decodeBytes_flatMap_encodeByte]
    exact String.utf8Encode_toList
  rw [decode?, hbytes]
  exact dif_pos s.isValidUTF8

/-- Different texts are different components. -/
theorem encodeChars_injective {v w : String} (h : encodeChars v.toList = encodeChars w.toList) :
    v = w := by
  have hread := decode?_encodeChars v
  rw [h, decode?_encodeChars] at hread
  exact (Option.some.inj hread).symm

/-! ## §3. What is written. -/

/-- Texts of unreserved characters, escapes and the given delimiters. -/
inductive Written (delimiters : List Char) : List Char → Prop
  | nil : Written delimiters []
  | unreserved {c : Char} {cs : List Char} : c.isAlphanum ∨ c ∈ ['-', '_', '.', '~'] →
      Written delimiters cs → Written delimiters (c :: cs)
  | escape {m n : Char} {cs : List Char} : m ∈ hexDigits → n ∈ hexDigits →
      Written delimiters cs → Written delimiters ('%' :: m :: n :: cs)
  | delimiter {c : Char} {cs : List Char} : c ∈ delimiters →
      Written delimiters cs → Written delimiters (c :: cs)

theorem Written.append {delimiters cs ds : List Char} (hc : Written delimiters cs)
    (hd : Written delimiters ds) : Written delimiters (cs ++ ds) := by
  induction hc with
  | nil => exact hd
  | unreserved h _ ih => exact .unreserved h ih
  | escape hm hn _ ih => exact .escape hm hn ih
  | delimiter h _ ih => exact .delimiter h ih

theorem written_encodeByte (delimiters : List Char) (b : UInt8) :
    Written delimiters (encodeByte b) := by
  obtain ⟨hhigh, hlow⟩ := halves_lt b
  unfold encodeByte
  split
  · rename_i hunreserved
    exact .unreserved (isUnreserved_iff.mp hunreserved) .nil
  · exact .escape (hexDigit_spec _ hhigh).1 (hexDigit_spec _ hlow).1 .nil

/-- A component has no delimiter, whatever the text is. -/
theorem written_encodeChars (delimiters cs : List Char) : Written delimiters (encodeChars cs) := by
  rw [encodeChars_eq_flatMap]
  induction cs.flatMap String.utf8EncodeChar with
  | nil => exact .nil
  | cons b bs ih => exact (written_encodeByte delimiters b).append ih

/-- The delimiters of forms and of cookie headers, and the control characters. -/
def Breaks (c : Char) : Prop :=
  c ∈ ['&', '=', ';', ' '] ∨ c.toNat < 32 ∨ (127 ≤ c.toNat ∧ c.toNat < 160)

instance : DecidablePred Breaks := fun _ => inferInstanceAs (Decidable (_ ∨ _))

theorem not_breaks_of_isAlphanum {c : Char} (h : c.isAlphanum = true) : ¬ Breaks c := by
  have hrange := Name.isAlphanum_iff.mp h
  rintro (hdelimiter | hcontrol)
  · simp only [List.mem_cons, List.not_mem_nil, or_false] at hdelimiter
    rcases hdelimiter with rfl | rfl | rfl | rfl <;> exact absurd h (by decide)
  · omega

theorem not_breaks_of_mem_marks {c : Char} (h : c ∈ ['-', '_', '.', '~']) : ¬ Breaks c := by
  simp only [List.mem_cons, List.not_mem_nil, or_false] at h
  rcases h with rfl | rfl | rfl | rfl <;> decide

/-- Nothing breaks out of a text without delimiters. -/
theorem Written.not_breaks {cs : List Char} (h : Written [] cs) : ∀ c ∈ cs, ¬ Breaks c := by
  have halnum : hexDigits.all Char.isAlphanum = true := by decide
  have hdigit : ∀ c ∈ hexDigits, ¬ Breaks c := fun c hc =>
    not_breaks_of_isAlphanum (List.all_eq_true.mp halnum c hc)
  have hpercent : ¬ Breaks '%' := by decide
  induction h with
  | nil => nofun
  | unreserved hc _ ih =>
    exact List.forall_mem_cons.mpr ⟨hc.elim not_breaks_of_isAlphanum not_breaks_of_mem_marks, ih⟩
  | escape hm hn _ ih =>
    simp only [List.forall_mem_cons]
    exact ⟨hpercent, hdigit _ hm, hdigit _ hn, ih⟩
  | delimiter hc => cases hc

/-- No delimiter of a form or of a cookie header comes from a value. -/
theorem not_mem_encodeChars {d : Char} (hd : Breaks d) (cs : List Char) : d ∉ encodeChars cs :=
  fun hmem => (written_encodeChars [] cs).not_breaks d hmem hd

/-! ## §4. Forms. -/

/-- A pair of a form, cut at its first `=`. -/
def readPair? (cs : List Char) : Option (String × String) :=
  match cs.dropWhile (· ≠ '=') with
  | '=' :: value => do return (← decode? (cs.takeWhile (· ≠ '=')), ← decode? value)
  | _ => none

/-- The pairs of a form, cut at every `&`; the empty text has none. -/
def readForm? (text : String) : Option (List (String × String)) :=
  if text.toList = [] then some [] else (Text.splitOn '&' text.toList).mapM readPair?

theorem readPair?_formPair (p : String × String) : readPair? (formPair p) = some p := by
  obtain ⟨key, value⟩ := p
  have hkey : ∀ c ∈ encodeChars key.toList, decide (c ≠ '=') = true := by
    intro c hc
    refine decide_eq_true ?_
    rintro rfl
    exact not_mem_encodeChars (by decide) _ hc
  have hdrop : (formPair (key, value)).dropWhile (· ≠ '=') = '=' :: encodeChars value.toList :=
    List.dropWhile_append_of_pos hkey
  have htake : (formPair (key, value)).takeWhile (· ≠ '=') = encodeChars key.toList := by
    refine (List.takeWhile_append_of_pos hkey).trans ?_
    rw [List.takeWhile_cons_of_neg (by decide), List.append_nil]
  rw [readPair?, hdrop, htake]
  simp only [decode?_encodeChars]
  rfl

theorem not_mem_formPair (p : String × String) : '&' ∉ formPair p := by
  simp only [formPair, List.mem_append, List.mem_cons, not_or]
  exact ⟨not_mem_encodeChars (by decide) _, by decide, not_mem_encodeChars (by decide) _⟩

/-- **A FORM IS READ BACK.** -/
theorem readForm?_form (pairs : List (String × String)) : readForm? (form pairs) = some pairs := by
  cases pairs with
  | nil => rfl
  | cons p rest =>
    have hparts : ∀ part ∈ (p :: rest).map formPair, '&' ∉ part :=
      List.forall_mem_map.mpr fun q _ => not_mem_formPair q
    have hsplit : Text.splitOn '&' (form (p :: rest)).toList = (p :: rest).map formPair := by
      rw [form, String.toList_ofList]
      exact Text.splitOn_intercalate hparts
    -- the empty text is cut into one empty part, but a pair has its `=`
    have hne : (form (p :: rest)).toList ≠ [] := by
      intro hnil
      rw [hnil] at hsplit
      have hempty : [] = formPair p := (List.cons.inj hsplit).1
      exact List.append_ne_nil_of_right_ne_nil _ (List.cons_ne_nil _ _) hempty.symm
    have hread : readPair? ∘ formPair = fun q => pure (id q) := funext readPair?_formPair
    rw [readForm?, if_neg hne, hsplit, List.mapM_map, hread, List.mapM_pure, List.map_id]
    rfl

/-- A form has unreserved characters, escapes and its own two delimiters. -/
theorem written_form (pairs : List (String × String)) :
    Written ['=', '&'] (form pairs).toList := by
  have hpair : ∀ p : String × String, Written ['=', '&'] (formPair p) := fun p =>
    (written_encodeChars _ _).append (.delimiter (by decide) (written_encodeChars _ _))
  rw [form, String.toList_ofList]
  cases pairs with
  | nil => exact .nil
  | cons p rest =>
    rw [List.map_cons]
    induction rest generalizing p with
    | nil =>
      rw [List.map_nil, List.intercalate_singleton]
      exact hpair p
    | cons q more ih =>
      rw [List.map_cons, List.intercalate_cons_cons, List.append_assoc]
      exact (hpair p).append (.delimiter (by decide) (ih q))

/-! ## §5. Cookies. -/

/-- A cookie header with the given segments behind its names. -/
def headerOf (names : List String) (segments : List (List Char)) : List Char :=
  [';', ' '].intercalate (List.zipWith (fun name segment => name.toList ++ '=' :: segment)
    names segments)

/-- The segment of a value is the value as a component. -/
theorem cookies_eq_headerOf (names values : List String) :
    (cookies (names.zip values)).toList
      = headerOf names (values.map fun value => encodeChars value.toList) := by
  rw [cookies, String.toList_ofList, headerOf, List.zipWith_map_right, List.map_zip_eq_zipWith]
  rfl

theorem headerOf_singleton (name : String) (segment : List Char) :
    headerOf [name] [segment] = name.toList ++ '=' :: segment :=
  List.intercalate_singleton

theorem headerOf_cons_cons (name next : String) (names : List String) (s t : List Char)
    (segments : List (List Char)) :
    headerOf (name :: next :: names) (s :: t :: segments)
      = name.toList ++ '=' :: (s ++ ';' :: ' ' :: headerOf (next :: names) (t :: segments)) := by
  refine List.intercalate_cons_cons.trans ?_
  simp only [List.append_assoc, List.cons_append, List.nil_append]
  rfl

/-- Who knows the names sees where the segments are. -/
theorem headerOf_injective {names : List String} {ss ts : List (List Char)}
    (hss : names.length = ss.length) (hts : names.length = ts.length)
    (hsep : ∀ s ∈ ss, ';' ∉ s) (hsep' : ∀ t ∈ ts, ';' ∉ t)
    (h : headerOf names ss = headerOf names ts) : ss = ts := by
  induction names generalizing ss ts with
  | nil => rw [List.length_eq_zero_iff.mp hss.symm, List.length_eq_zero_iff.mp hts.symm]
  | cons name names ih =>
    obtain ⟨s, ss, rfl⟩ := List.exists_cons_of_length_eq_add_one hss.symm
    obtain ⟨t, ts, rfl⟩ := List.exists_cons_of_length_eq_add_one hts.symm
    have hmore : names.length = ss.length := Nat.succ.inj hss
    have hmore' : names.length = ts.length := Nat.succ.inj hts
    -- the last segment ends with the header, every other one at its `;`
    cases names with
    | nil =>
      rw [List.length_eq_zero_iff.mp hmore.symm, List.length_eq_zero_iff.mp hmore'.symm] at h ⊢
      rw [headerOf_singleton, headerOf_singleton] at h
      rw [(List.cons.inj (List.append_cancel_left h)).2]
    | cons next names =>
      obtain ⟨s', ss, rfl⟩ := List.exists_cons_of_length_eq_add_one hmore.symm
      obtain ⟨t', ts, rfl⟩ := List.exists_cons_of_length_eq_add_one hmore'.symm
      obtain ⟨hfirst, hrest⟩ := List.forall_mem_cons.mp hsep
      obtain ⟨hfirst', hrest'⟩ := List.forall_mem_cons.mp hsep'
      rw [headerOf_cons_cons, headerOf_cons_cons] at h
      have htail := (List.cons.inj (List.append_cancel_left h)).2
      have hcut := congrArg (Text.splitOn ';') htail
      rw [Text.splitOn_append_cons hfirst, Text.splitOn_append_cons hfirst'] at hcut
      obtain rfl : s = t := (List.cons.inj hcut).1
      have hheader := List.append_cancel_left htail
      rw [ih hmore hmore' hrest hrest' (List.cons.inj (List.cons.inj hheader).2).2]

theorem not_mem_segments (values : List String) :
    ∀ s ∈ values.map fun value => encodeChars value.toList, ';' ∉ s :=
  List.forall_mem_map.mpr fun _ _ => not_mem_encodeChars (by decide) _

/-- **THE VALUES OF COOKIES CAN BE TOLD APART** by who knows the names. -/
theorem cookies_injective {names values values' : List String}
    (hv : names.length = values.length) (hv' : names.length = values'.length)
    (h : cookies (names.zip values) = cookies (names.zip values')) : values = values' := by
  have hheader := congrArg String.toList h
  rw [cookies_eq_headerOf, cookies_eq_headerOf] at hheader
  have hsegments := headerOf_injective (by rwa [List.length_map]) (by rwa [List.length_map])
    (not_mem_segments values) (not_mem_segments values') hheader
  exact List.map_injective_iff.mpr (fun _ _ => encodeChars_injective) hsegments

/-! ## §6. Forms and cookies. -/

/-- **VALUES ARE READ BACK AND DO NOT BREAK OUT.**  Cutting a form and reading the escapes gives its
pairs, and the form has no character but the unreserved ones, escapes, `=` and `&`.  Two headers
with the same names and different values are different, and each value stands behind its name in a
segment that is read back and that nothing breaks out of. -/
theorem written_values_read_back :
    (∀ pairs : List (String × String),
      readForm? (form pairs) = some pairs ∧ Written ['=', '&'] (form pairs).toList) ∧
    ∀ names values : List String, names.length = values.length →
      (∀ values' : List String, names.length = values'.length →
        cookies (names.zip values) = cookies (names.zip values') → values = values') ∧
      ∃ segments, (cookies (names.zip values)).toList = headerOf names segments ∧
        List.Forall₂ (fun value segment => decode? segment = some value ∧
          ∀ c ∈ segment, ¬ Breaks c) values segments := by
  refine ⟨fun pairs => ⟨readForm?_form pairs, written_form pairs⟩, fun names values hlength =>
    ⟨fun values' hlength' => cookies_injective hlength hlength',
      values.map fun value => encodeChars value.toList, cookies_eq_headerOf names values, ?_⟩⟩
  rw [List.forall₂_map_right_iff, List.forall₂_same]
  exact fun value _ => ⟨decode?_encodeChars value, (written_encodeChars [] _).not_breaks⟩

/-- A session that would add a cookie of its own. -/
def forgedSession : List String := ["1; admin=yes", "dark"]

/-- The forged session is one value behind its name, and its header is not that of another session;
a key made of delimiters is still one key. -/
theorem written_values_read_back_forged :
    ["session", "theme"].length = forgedSession.length ∧
    cookies (["session", "theme"].zip forgedSession)
      = "session=1%3B%20admin%3Dyes; theme=dark" ∧
    cookies (["session", "theme"].zip forgedSession)
      ≠ cookies (["session", "theme"].zip ["1", "dark"]) ∧
    (∃ segments, (cookies (["session", "theme"].zip forgedSession)).toList
        = headerOf ["session", "theme"] segments ∧
      List.Forall₂ (fun value segment => decode? segment = some value ∧
        ∀ c ∈ segment, ¬ Breaks c) forgedSession segments) ∧
    readForm? (form [("&=", "é"), ("", "")]) = some [("&=", "é"), ("", "")] := by
  obtain ⟨hforms, hcookies⟩ := written_values_read_back
  obtain ⟨hinjective, hsegments⟩ := hcookies ["session", "theme"] forgedSession rfl
  have hother : cookies (["session", "theme"].zip forgedSession)
      ≠ cookies (["session", "theme"].zip ["1", "dark"]) := by
    intro hsame
    exact absurd (hinjective ["1", "dark"] rfl hsame) (by decide)
  exact ⟨rfl, by decide, hother, hsegments, (hforms _).1⟩

end ApiMethods.Wire
