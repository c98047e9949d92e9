import HieroRelay.Server.ForwardedHeader

/-! When the address of a header `Forwarded` is read as it stands there. -/

namespace HieroRelay.Server

open HieroRelay.Js HieroRelay.Lib

section Reading

variable {ip text behind : List Char}

/-- The text goes on with a delimiter, or it ends. -/
def Ended (behind : List Char) : Prop := ∀ char ∈ behind.head?, isDelimiter char = true

/-- The forms in which an address is found at the start of a text. -/
inductive Reads (ip : List Char) : List Char → Prop
  | bare (behind : List Char) (ended : Ended behind) : Reads ip (ip ++ behind)
  | bracketed (behind : List Char) : Reads ip ('[' :: ip ++ ']' :: behind)
  | quoted (behind : List Char) : Reads ip ('"' :: ip ++ '"' :: behind)
  | quotedBrackets (behind : List Char) : Reads ip ('"' :: '[' :: ip ++ ']' :: '"' :: behind)

theorem upTo_append {close : Char} (absent : close ∉ ip) : upTo close (ip ++ close :: behind) = some ip := by
  rw [upTo, if_pos (by simp), List.takeWhile_append_of_pos]
  · simp
  · intro char member
    exact bne_iff_ne.mpr (ne_of_mem_of_not_mem member absent)

theorem upTo_eq_some_iff {close : Char} :
    upTo close text = some ip ↔ close ∉ ip ∧ ∃ behind, text = ip ++ close :: behind := by
  constructor
  · intro found
    by_cases member : close ∈ text
    · obtain ⟨start, behind, rfl, absent⟩ := List.eq_append_cons_of_mem member
      rw [upTo_append absent] at found
      obtain rfl := Option.some.inj found
      exact ⟨absent, behind, rfl⟩
    · rw [upTo, if_neg member] at found
      cases found
  · rintro ⟨absent, behind, rfl⟩
    exact upTo_append absent

theorem withoutBrackets_bracketed (ip : List Char) : withoutBrackets ('[' :: ip ++ [']']) = ip := by
  rw [withoutBrackets, if_pos ⟨rfl, List.getLast?_concat (l := '[' :: ip)⟩]
  simp

theorem withoutBrackets_eq_iff (noBracket : '[' ∉ ip) :
    withoutBrackets text = ip ↔ text = ip ∨ text = '[' :: ip ++ [']'] := by
  constructor
  · intro same
    rw [withoutBrackets] at same
    split at same
    · next brackets =>
      right
      obtain ⟨rest, rfl⟩ := List.head?_eq_some_iff.mp brackets.1
      obtain ⟨start, whole⟩ := List.getLast?_eq_some_iff.mp brackets.2
      cases start with
      | nil => cases whole
      | cons head start =>
        obtain ⟨rfl, rfl⟩ := List.cons.inj whole
        simp at same
        rw [same]
        rfl
    · exact .inl same
  · rintro (rfl | rfl)
    · rw [withoutBrackets, if_neg]
      intro brackets
      exact noBracket (List.mem_of_mem_head? brackets.1)
    · exact withoutBrackets_bracketed ip

/-- The characters of an address are neither delimiters nor quotes nor brackets. -/
theorem addressChars_plain {char : Char} (member : char ∈ addressChars) :
    isDelimiter char = false ∧ char ∉ ['"', '[', ']', '\\'] := by
  have checked : (addressChars.all fun char => !isDelimiter char && decide (char ∉ ['"', '[', ']', '\\'])) = true := by
    decide
  simpa using List.all_eq_true.mp checked char member

private theorem takeWhile_ended (plain : ∀ char ∈ ip, isDelimiter char = false) (ended : Ended behind) :
    (ip ++ behind).takeWhile (!isDelimiter ·) = ip := by
  rw [List.takeWhile_append_of_pos]
  · cases behind with
    | nil => simp
    | cons char rest => simp [ended char rfl]
  · intro char member
    simp [plain char member]

private theorem ended_dropWhile (text : List Char) : Ended (text.dropWhile (!isDelimiter ·)) := by
  intro char first
  have head := List.head?_dropWhile_not (!isDelimiter ·) text
  rw [Option.mem_def.mp first] at head
  simpa using head

theorem readIp_bare {value : List Char} (notEmpty : value ≠ []) (plain : ∀ char ∈ value, isDelimiter char = false)
    (first : value.head notEmpty ≠ '"' ∧ value.head notEmpty ≠ '[') (ended : Ended behind) :
    readIp (value ++ behind) = some value := by
  cases value with
  | nil => exact absurd rfl notEmpty
  | cons char rest =>
    rw [List.head_cons] at first
    rw [List.cons_append, readIp, if_neg first.1, if_neg first.2, ← List.cons_append, takeWhile_ended plain ended]

theorem readIp_quoted {content : List Char} (noQuote : '"' ∉ content) :
    readIp ('"' :: content ++ '"' :: behind) = some (withoutBrackets content) := by
  change (upTo '"' (content ++ '"' :: behind)).map withoutBrackets = _
  rw [upTo_append noQuote, Option.map_some]

/-- A value is read as an address exactly if it begins in one of the forms. -/
theorem readIp_eq_some_iff (valid : isIp ip = true) : readIp text = some ip ↔ Reads ip text := by
  simp only [isIp, Bool.and_eq_true, List.all_eq_true, decide_eq_true_eq] at valid
  obtain ⟨⟨notEmpty, -⟩, chars⟩ := valid
  have plain : ∀ char ∈ ip, isDelimiter char = false ∧ char ∉ ['"', '[', ']', '\\'] := fun char member =>
    addressChars_plain (chars char member)
  have absent : ∀ char ∈ ['"', '[', ']', '\\'], char ∉ ip := fun char mark member => (plain char member).2 mark
  constructor
  · intro found
    cases text with
    | nil => cases found
    | cons char rest =>
      rw [readIp] at found
      split_ifs at found with quote bracket
      · subst quote
        obtain ⟨content, upTo, same⟩ := Option.map_eq_some_iff.mp found
        obtain ⟨-, behind, rfl⟩ := upTo_eq_some_iff.mp upTo
        rcases (withoutBrackets_eq_iff (absent '[' (by decide))).mp same with rfl | rfl
        · exact .quoted behind
        · simpa using Reads.quotedBrackets behind
      · subst bracket
        obtain ⟨-, behind, rfl⟩ := upTo_eq_some_iff.mp found
        exact .bracketed behind
      · have whole := List.takeWhile_append_dropWhile (p := (!isDelimiter ·)) (l := char :: rest)
        rw [Option.some.inj found] at whole
        rw [← whole]
        exact .bare _ (ended_dropWhile _)
  · intro reads
    cases reads with
    | bare behind ended =>
      have first := (plain _ (List.head_mem notEmpty)).2
      exact readIp_bare notEmpty (fun char member => (plain char member).1) (by grind) ended
    | bracketed behind => exact upTo_append (absent ']' (by decide))
    | quoted behind =>
      rw [readIp_quoted (absent '"' (by decide)), (withoutBrackets_eq_iff (absent '[' (by decide))).mpr (.inl rfl)]
    | quotedBrackets behind =>
      have noQuote : '"' ∉ '[' :: ip ++ [']'] := by simpa using absent '"' (by decide)
      have content := @readIp_quoted behind _ noQuote
      rw [withoutBrackets_bracketed] at content
      simpa using content

end Reading

section Header

variable {ip text : List Char}

/-- The whole function: an address is found behind the first `for=` of the first entry. -/
theorem parseForwardedHeader_eq_some_iff (short : text.length ≤ 1000) (valid : isIp ip = true) :
    parseForwardedHeader text = some ip ↔ ∃ index,
      indexOf forMarker ((firstEntry text).map toLowerCase) = some index ∧ Reads ip ((firstEntry text).drop (index + 4)) := by
  have notLong : ¬ 1000 < text.length := Nat.not_lt.mpr short
  unfold parseForwardedHeader
  rw [if_neg notLong]
  simp only [← readIp_eq_some_iff valid]
  by_cases empty : firstEntry text = []
  · simp [empty, forMarker, indexOf, failure]
  · cases found : indexOf forMarker ((firstEntry text).map toLowerCase) with
    | none => simp [empty]
    | some index =>
      cases read : readIp ((firstEntry text).drop (index + 4)) with
      | none => simp [empty, read]
      | some other =>
        simp only [empty, read, failure, Option.bind_eq_bind, Option.bind_some, if_false]
        split
        · simp [read]
        · next invalid =>
          suffices other ≠ ip by simpa [read] using this
          rintro rfl
          exact invalid valid

private theorem rdropWhile_append {start : List Char} (behind : List Char)
    (last : ∀ char ∈ start.getLast?, isWhiteSpace char = false) :
    (start ++ behind).rdropWhile isWhiteSpace = start ++ behind.rdropWhile isWhiteSpace := by
  induction behind using List.reverseRecOn with
  | nil =>
    rw [List.append_nil, List.rdropWhile_nil, List.append_nil]
    exact List.rdropWhile_eq_self_iff.mpr fun notEmpty => by
      simpa using last _ (List.getLast?_eq_some_getLast notEmpty)
  | append_singleton front char ih =>
    rw [← List.append_assoc, List.rdropWhile_concat, List.rdropWhile_concat, ih]
    split
    · rfl
    · rw [List.append_assoc]

/-- White space inside stays, and some of it at the end may go. -/
theorem trim_append {start : List Char} (behind : List Char) (notEmpty : start ≠ [])
    (first : ∀ char ∈ start.head?, isWhiteSpace char = false)
    (last : ∀ char ∈ start.getLast?, isWhiteSpace char = false) :
    ∃ kept, kept <+: behind ∧ trim (start ++ behind) = start ++ kept := by
  have dropped : (start ++ behind).dropWhile isWhiteSpace = start ++ behind := by
    cases start with
    | nil => exact absurd rfl notEmpty
    | cons char rest => exact List.dropWhile_cons_of_neg (by simpa using first char rfl)
  exact ⟨_, List.rdropWhile_prefix _ _, by rw [trim, dropped, rdropWhile_append behind last]⟩

private theorem length_firstEntry_le (text : List Char) :
    (firstEntry text).length ≤ (text.takeWhile (· != ',')).length :=
  Nat.le_trans (List.rdropWhile_prefix _ _).length_le (List.dropWhile_suffix _).length_le

end Header

section Grammar

variable {char : Char}

theorem toNat_of_isTokenChar (valid : isTokenChar char = true) : 33 ≤ char.toNat ∧ char.toNat ≤ 126 := by
  rcases Bool.or_eq_true_iff.mp valid with letter | listed
  · have bounds : ∀ {least most : UInt32}, char.val ≥ least ∧ char.val ≤ most → 33 ≤ least.toNat → most.toNat ≤ 126 →
        33 ≤ char.toNat ∧ char.toNat ≤ 126 := by
      rintro least most ⟨above, below⟩ low high
      exact ⟨Nat.le_trans low (UInt32.le_iff_toNat_le.mp above), Nat.le_trans (UInt32.le_iff_toNat_le.mp below) high⟩
    have both : ∀ {first second : Prop} [Decidable first] [Decidable second],
        (decide first && decide second) = true → first ∧ second := by
      intro first second _ _ holds
      rwa [Bool.and_eq_true, decide_eq_true_eq, decide_eq_true_eq] at holds
    rcases Bool.or_eq_true_iff.mp letter with alphabetic | digit
    · rcases Bool.or_eq_true_iff.mp alphabetic with upper | lower
      · exact bounds (of_decide_eq_true upper) (by decide) (by decide)
      · exact bounds (both lower) (by decide) (by decide)
    · exact bounds (both digit) (by decide) (by decide)
  · have checked : ("!#$%&'*+-.^_`|~".toList.all fun char => decide (33 ≤ char.toNat ∧ char.toNat ≤ 126)) = true := by
      decide
    exact of_decide_eq_true (List.all_eq_true.mp checked char (of_decide_eq_true listed))

theorem isTokenChar_plain (valid : isTokenChar char = true) :
    char ∉ ['=', ',', ';', ' ', '\t', '"', '\\', '[', ']'] := by
  intro mark
  have checked : (['=', ',', ';', ' ', '\t', '"', '\\', '[', ']'].all fun char => !isTokenChar char) = true := by decide
  have invalid := List.all_eq_true.mp checked char mark
  simp [valid] at invalid

theorem isTokenChar_solid (valid : isTokenChar char = true) : isWhiteSpace char = false := by
  obtain ⟨least, greatest⟩ := toNat_of_isTokenChar valid
  simp [isWhiteSpace]
  omega

/-- Only letters are changed. -/
theorem toLowerCase_eq_iff {mark : Char} (listed : mark ∈ ['=', ',', ';']) : toLowerCase char = mark ↔ char = mark := by
  have code : mark.toNat ∈ [61, 44, 59] := List.mem_map_of_mem (f := Char.toNat) listed
  simp only [List.mem_cons, List.not_mem_nil, or_false] at code
  simp only [toLowerCase]
  split
  · next upper =>
    have changed : (Char.ofNat (char.toNat + 32)).toNat = char.toNat + 32 :=
      toNat_ofNat_byte (by omega)
    constructor
    · intro same
      rw [same] at changed
      omega
    · rintro rfl
      omega
  · rfl

theorem mem_map_toLowerCase {text : List Char} {mark : Char} (listed : mark ∈ ['=', ',', ';']) :
    mark ∈ text.map toLowerCase ↔ mark ∈ text := by
  simp [List.mem_map, toLowerCase_eq_iff listed]

theorem Token.not_mem (token : Token) {mark : Char} (listed : mark ∈ ['=', ',', ';']) : mark ∉ token.chars := by
  intro member
  exact isTokenChar_plain (token.valid _ member) (List.mem_append_left _ listed)

/-- The parameter does not cut the entry off, and `for=` does not occur in it. -/
structure Pair.Plain (pair : Pair) : Prop where
  name : ¬ ['f', 'o', 'r'] <:+ pair.name.chars.map toLowerCase
  noComma : ',' ∉ pair.value.text
  noMarker : ¬ forMarker <:+: pair.value.text.map toLowerCase

theorem Pair.plain_iff (pair : Pair) : pair.Plain ↔ ',' ∉ pair.text ∧ ¬ forMarker <:+: pair.text.map toLowerCase := by
  have marker : forMarker <:+: pair.text.map toLowerCase ↔ ['f', 'o', 'r'] <:+ pair.name.chars.map toLowerCase ∨
      forMarker <:+: pair.value.text.map toLowerCase := by
    have found := @infix_append_separator_iff _ (pair.name.chars.map toLowerCase) (pair.value.text.map toLowerCase) '='
      ['f', 'o', 'r'] (by decide)
      (by rw [mem_map_toLowerCase (by decide)]; exact pair.name.not_mem (by decide))
    simpa [Pair.text, forMarker, show toLowerCase '=' = '=' from rfl] using found
  have comma : ',' ∈ pair.text ↔ ',' ∈ pair.value.text := by
    have absent : ',' ∉ pair.name.chars := pair.name.not_mem (by decide)
    simp [Pair.text, absent]
  rw [marker, comma, not_or]
  exact ⟨fun ⟨name, noComma, noMarker⟩ => ⟨noComma, name, noMarker⟩,
    fun ⟨noComma, name, noMarker⟩ => ⟨name, noComma, noMarker⟩⟩

/-- Nothing in front of the parameter `for` disturbs it. -/
theorem plain_before_iff (element : Element) : (∀ pair, some pair ∈ element → pair.Plain) ↔
    ',' ∉ element.beforeText ∧ ¬ forMarker <:+: element.beforeText.map toLowerCase := by
  induction element with
  | nil => simp [Element.beforeText, forMarker]
  | cons first rest ih =>
    have text : Element.beforeText (first :: rest) = optionalText first ++ ';' :: Element.beforeText rest := by
      simp [Element.beforeText]
    have marker := @infix_append_cons_iff _ forMarker ((optionalText first).map toLowerCase)
      ((Element.beforeText rest).map toLowerCase) ';' (by decide)
    have here : (∀ pair, first = some pair → pair.Plain) ↔
        ',' ∉ optionalText first ∧ ¬ forMarker <:+: (optionalText first).map toLowerCase := by
      cases first with
      | none => simp [optionalText, forMarker]
      | some pair => simpa [optionalText] using pair.plain_iff
    rw [text, List.map_append, List.map_cons, show toLowerCase ';' = ';' from rfl, marker, not_or]
    simp only [List.mem_cons, List.mem_append, not_or]
    grind

end Grammar

section Values

variable {char : Char}

theorem isIp_text (address : IpAddress) : isIp address.text = true := by
  simp only [isIp, Bool.and_eq_true, List.all_eq_true, decide_eq_true_eq]
  exact ⟨⟨by simpa using address.text_ne_nil, address.length_text_le⟩, fun char member => address.text_chars member⟩

/-- The characters of a node are neither delimiters nor white space nor quotes. -/
def isNodeChar (char : Char) : Bool :=
  !isDelimiter char && !isWhiteSpace char && char ∉ ['"', '\\'] && isTextChar char

private theorem isNodeChar_of_isTokenChar (valid : isTokenChar char = true) : isNodeChar char = true := by
  have plain := isTokenChar_plain valid
  have bounds := toNat_of_isTokenChar valid
  have shown : isTextChar char = true := by
    simp [isTextChar]
    omega
  simp only [List.mem_cons, List.not_mem_nil, or_false, not_or] at plain
  simp [isNodeChar, isDelimiter, isTokenChar_solid valid, plain, shown]

theorem Port.text_chars (port : Port) (member : char ∈ port.text) : isTokenChar char = true := by
  cases port with
  | number digits notEmpty short valid =>
    have digit := valid char member
    simp [isTokenChar, Char.isAlphanum, digit]
  | obfuscated chars notEmpty valid =>
    rcases List.mem_cons.mp member with rfl | inside
    · decide
    · rcases Bool.or_eq_true_iff.mp (valid char inside) with letter | mark
      · exact Bool.or_eq_true_iff.mpr (.inl letter)
      · have checked : (['.', '_', '-'].all isTokenChar) = true := by decide
        exact List.all_eq_true.mp checked char (of_decide_eq_true mark)

private theorem mem_of_mem_addressText {address : IpAddress} (member : char ∈ addressText address) :
    char ∈ '[' :: addressChars ++ [']'] := by
  cases address with
  | v4 four => exact List.mem_cons_of_mem _ (List.mem_append_left _ ((IpAddress.v4 four).text_chars member))
  | v6 six =>
    rw [addressText, List.cons_append, List.mem_cons, List.mem_append] at member
    rcases member with first | inside | last
    · exact List.mem_cons.mpr (.inl first)
    · exact List.mem_cons_of_mem _ (List.mem_append_left _ ((IpAddress.v6 six).text_chars inside))
    · exact List.mem_cons_of_mem _ (List.mem_append_right _ last)

private theorem addressText_chars (address : IpAddress) (member : char ∈ addressText address) :
    isNodeChar char = true := by
  have checked : (('[' :: addressChars ++ [']']).all isNodeChar) = true := by decide
  exact List.all_eq_true.mp checked char (mem_of_mem_addressText member)

def Node.portText (node : Node) : List Char := node.port.toList.flatMap (':' :: ·.text)

theorem Node.portText_eq_nil_iff (node : Node) : node.portText = [] ↔ node.port = none := by
  cases port : node.port <;> simp [Node.portText, port]

theorem Node.portText_chars (node : Node) (member : char ∈ node.portText) : isNodeChar char = true := by
  obtain ⟨port, -, inside⟩ := List.mem_flatMap.mp member
  rcases List.mem_cons.mp inside with rfl | inside
  · decide
  · exact isNodeChar_of_isTokenChar (port.text_chars inside)

theorem Node.text_chars (node : Node) (member : char ∈ node.text) : isNodeChar char = true := by
  rcases List.mem_append.mp member with inAddress | inPort
  · exact addressText_chars _ inAddress
  · exact node.portText_chars inPort

theorem isNodeChar_iff : isNodeChar char = true ↔
    isDelimiter char = false ∧ isWhiteSpace char = false ∧ (char ≠ '"' ∧ char ≠ '\\') ∧ isTextChar char = true := by
  simp [isNodeChar, and_assoc]

/-- Without quotes the port of an address of version six is left out; in quotes there may be neither a
port nor an escaped character. -/
def NodeValue.Readable {node : Node} : NodeValue node → Prop
  | .bare => node.port = none ∨ ∃ address, node.address = .v6 address
  | .quoted chars _ => node.port = none ∧ ∀ quoted ∈ chars, quoted.escaped = false

theorem quotedText_plain {chars : List QuotedChar} (plain : ∀ quoted ∈ chars, quoted.escaped = false) :
    chars.flatMap QuotedChar.text = chars.map QuotedChar.char := by
  rw [List.map_eq_flatMap]
  refine List.flatMap_congr fun quoted member => ?_
  simp [QuotedChar.text, plain quoted member]

theorem mem_quotedText {chars : List QuotedChar} (member : char ∈ chars.flatMap QuotedChar.text) :
    char = '\\' ∨ char ∈ chars.map QuotedChar.char := by
  obtain ⟨quoted, found, inside⟩ := List.mem_flatMap.mp member
  have same : char = '\\' ∨ char = quoted.char := by
    rw [QuotedChar.text] at inside
    split at inside
    · simpa using inside
    · exact .inr (by simpa using inside)
  exact same.imp_right fun same => List.mem_map.mpr ⟨quoted, found, same.symm⟩

private theorem plain_of_no_backslash {chars : List QuotedChar} (absent : '\\' ∉ chars.flatMap QuotedChar.text) :
    ∀ quoted ∈ chars, quoted.escaped = false := by
  intro quoted member
  by_contra escaped
  rw [Bool.not_eq_false] at escaped
  exact absent (List.mem_flatMap.mpr ⟨quoted, member, by simp [QuotedChar.text, escaped]⟩)

theorem not_mem_text (address : IpAddress) {mark : Char} (listed : mark ∈ ['"', '[', ']', '\\']) :
    mark ∉ address.text := fun member => (addressChars_plain (address.text_chars member)).2 listed

theorem Node.reads_bare_iff (node : Node) {behind : List Char} (ended : Ended behind) :
    Reads node.address.text (node.text ++ behind) ↔ node.port = none ∨ ∃ six, node.address = .v6 six := by
  have whole : node.text = addressText node.address ++ node.portText := rfl
  cases version : node.address with
  | v4 four =>
    have notEmpty : node.text ≠ [] := by
      rw [whole, version]
      exact List.append_ne_nil_of_left_ne_nil four.text_ne_nil _
    have first : node.text.head notEmpty ∈ (IpAddress.v4 four).text := by
      simp only [whole, version, addressText, IpAddress.text]
      rw [List.head_append_of_ne_nil four.text_ne_nil]
      exact List.head_mem _
    have mark := (addressChars_plain (IpAddress.text_chars _ first)).2
    rw [← readIp_eq_some_iff (isIp_text _),
      readIp_bare notEmpty (fun char member => (isNodeChar_iff.mp (node.text_chars member)).1) (by grind) ended]
    simp [whole, version, addressText, IpAddress.text, node.portText_eq_nil_iff]
  | v6 six =>
    refine iff_of_true ?_ (.inr ⟨six, rfl⟩)
    have text : node.text ++ behind = '[' :: (IpAddress.v6 six).text ++ ']' :: (node.portText ++ behind) := by
      simp [whole, version, addressText, IpAddress.text]
    rw [text]
    exact .bracketed _

theorem Node.reads_quoted_iff (node : Node) {chars : List QuotedChar} (holds : chars.map QuotedChar.char = node.text)
    (behind : List Char) : Reads node.address.text (quote chars ++ behind) ↔
      node.port = none ∧ ∀ quoted ∈ chars, quoted.escaped = false := by
  have noQuote : '"' ∉ chars.flatMap QuotedChar.text := by
    intro member
    rcases mem_quotedText member with same | inside
    · exact absurd same (by decide)
    · rw [holds] at inside
      exact (isNodeChar_iff.mp (node.text_chars inside)).2.2.1.1 rfl
  have text : quote chars ++ behind = '"' :: chars.flatMap QuotedChar.text ++ '"' :: behind := by simp [quote]
  have whole : node.text = addressText node.address ++ node.portText := rfl
  rw [text, ← readIp_eq_some_iff (isIp_text _), readIp_quoted noQuote, Option.some_inj,
    withoutBrackets_eq_iff (not_mem_text _ (by decide))]
  constructor
  · intro forms
    have plain : ∀ quoted ∈ chars, quoted.escaped = false := by
      apply plain_of_no_backslash
      rcases forms with same | same
      · exact same ▸ not_mem_text _ (by decide)
      · have absent : '\\' ∉ node.address.text := not_mem_text _ (by decide)
        simpa [same] using absent
    refine ⟨?_, plain⟩
    rw [quotedText_plain plain, holds, whole] at forms
    have noBracket : '[' ∉ node.address.text := not_mem_text _ (by decide)
    rw [← node.portText_eq_nil_iff]
    cases version : node.address with
    | v4 four =>
      rw [version] at forms noBracket
      rcases forms with same | same
      · exact List.append_right_eq_self.mp same
      · obtain ⟨char, rest, text⟩ := List.exists_cons_of_ne_nil four.text_ne_nil
        simp only [addressText, IpAddress.text, text] at same noBracket
        exact absurd ((List.cons.inj same).1 ▸ List.mem_cons_self) noBracket
    | v6 six =>
      rw [version] at forms noBracket
      rcases forms with same | same
      · exact absurd (same ▸ List.mem_append_left _ List.mem_cons_self) noBracket
      · exact List.append_right_eq_self.mp same
  · rintro ⟨noPort, plain⟩
    rw [quotedText_plain plain, holds, whole, node.portText_eq_nil_iff.mpr noPort, List.append_nil]
    cases node.address with
    | v4 four => exact .inl rfl
    | v6 six => exact .inr rfl

theorem NodeValue.reads_iff {node : Node} (value : NodeValue node) {behind : List Char} (ended : Ended behind) :
    Reads node.address.text (value.text ++ behind) ↔ value.Readable := by
  cases value with
  | bare => exact node.reads_bare_iff ended
  | quoted chars holds => exact node.reads_quoted_iff holds behind

end Values

section Main

variable (header : ForwardedHeader)

private theorem ended_prefix {kept behind : List Char} (starts : kept <+: behind) (ended : Ended behind) :
    Ended kept := by
  intro char first
  obtain ⟨rest, rfl⟩ := starts
  exact ended char (List.mem_head?_append_of_mem_head? first)

private theorem ended_afterText : Ended header.afterText := by
  unfold ForwardedHeader.afterText
  cases header.after with
  | cons pair rest =>
    intro char first
    obtain rfl : ';' = char := by simpa using first
    rfl
  | nil =>
    cases header.others with
    | nil => exact fun char first => nomatch first
    | cons next rest =>
      intro char first
      cases space : next.leftSpace with
      | nil =>
        obtain rfl : ',' = char := by simpa [NextElement.text, space] using first
        rfl
      | cons blank spaces =>
        obtain rfl : blank = char := by simpa [NextElement.text, space] using first
        rcases next.blank blank (by simp [space]) with rfl | rfl <;> rfl

/-- The address is found behind an earlier `for=` by chance. -/
def ForwardedHeader.Misread : Prop :=
  ∃ index, index + 4 ≤ header.before.beforeText.length ∧
    indexOf forMarker ((firstEntry header.text).map toLowerCase) = some index ∧
      Reads header.node.address.text ((firstEntry header.text).drop (index + 4))

private theorem toLowerCase_of_isWhiteSpace {char : Char} (white : isWhiteSpace char = true) :
    toLowerCase char = char := by
  simp only [isWhiteSpace, Bool.or_eq_true, Bool.and_eq_true, decide_eq_true_eq] at white
  simp only [toLowerCase]
  rw [if_neg]
  simp at white
  omega

/-- No white space is in front of the parameter. -/
theorem head_solid {char : Char} (first : char ∈ (header.before.beforeText ++ header.forName).head?) :
    isWhiteSpace char = false := by
  unfold Element.beforeText at first
  cases before : header.before with
  | nil =>
    rw [before] at first
    have lower := congrArg List.head? header.isFor
    rw [List.head?_map, show header.forName.head? = some char from first] at lower
    by_contra white
    rw [Bool.not_eq_false] at white
    have same := Option.some.inj lower
    rw [toLowerCase_of_isWhiteSpace white] at same
    rw [same] at white
    exact absurd white (by decide)
  | cons pair rest =>
    rw [before] at first
    cases pair with
    | none =>
      obtain rfl : ';' = char := by simpa [optionalText] using first
      rfl
    | some pair =>
      obtain ⟨letter, name, text⟩ := List.exists_cons_of_ne_nil pair.name.notEmpty
      obtain rfl : letter = char := by simpa [optionalText, Pair.text, text] using first
      exact isTokenChar_solid (pair.name.valid letter (text ▸ List.mem_cons_self))

theorem NodeValue.text_chars {node : Node} (value : NodeValue node) {char : Char} (member : char ∈ value.text) :
    isDelimiter char = false ∧ isWhiteSpace char = false := by
  have plain : ∀ {char : Char}, char ∈ node.text → isDelimiter char = false ∧ isWhiteSpace char = false := by
    intro char inside
    exact ⟨(isNodeChar_iff.mp (node.text_chars inside)).1, (isNodeChar_iff.mp (node.text_chars inside)).2.1⟩
  cases value with
  | bare => exact plain member
  | quoted chars holds =>
    rcases List.mem_append.mp member with front | last
    · rcases List.mem_cons.mp front with rfl | inside
      · decide
      · rcases mem_quotedText inside with rfl | inside
        · decide
        · exact plain (holds ▸ inside)
    · obtain rfl := List.mem_singleton.mp last
      decide

theorem NodeValue.text_ne_nil {node : Node} (value : NodeValue node) : value.text ≠ [] := by
  cases value with
  | quoted chars holds => exact List.cons_ne_nil _ _
  | bare =>
    apply List.append_ne_nil_of_left_ne_nil
    cases node.address with
    | v4 four => exact four.text_ne_nil
    | v6 six => exact List.cons_ne_nil _ _

/-- The entry that is read, if no comma is in front of the parameter. -/
theorem firstEntry_text (noComma : ',' ∉ header.before.beforeText) : ∃ kept, Ended kept ∧
    firstEntry header.text = header.before.beforeText ++ header.forName ++ '=' :: header.value.text ++ kept := by
  have nameComma : ',' ∉ header.forName := by
    intro member
    have lower : ',' ∈ header.forName.map toLowerCase := (mem_map_toLowerCase (by decide)).mpr member
    rw [header.isFor] at lower
    exact absurd lower (by decide)
  have valueComma : ',' ∉ header.value.text := fun member =>
    absurd (header.value.text_chars member).1 (by decide)
  have cut : header.text.takeWhile (· != ',') = header.before.beforeText ++ header.forName ++ '=' :: header.value.text ++
      header.afterText.takeWhile (· != ',') := by
    rw [ForwardedHeader.text, List.takeWhile_append_of_pos]
    intro char member
    rw [bne_iff_ne]
    rintro rfl
    simp [noComma, nameComma, valueComma] at member
  have first : ∀ char ∈ (header.before.beforeText ++ header.forName ++ '=' :: header.value.text).head?,
      isWhiteSpace char = false := by
    intro char first
    have notEmpty : header.before.beforeText ++ header.forName ≠ [] := by
      intro empty
      have lower := header.isFor
      rw [(List.append_eq_nil_iff.mp empty).2] at lower
      cases lower
    rw [List.head?_append_of_ne_nil _ notEmpty] at first
    exact head_solid header first
  have last : ∀ char ∈ (header.before.beforeText ++ header.forName ++ '=' :: header.value.text).getLast?,
      isWhiteSpace char = false := by
    intro char last
    rw [List.getLast?_append_cons, List.getLast?_cons_of_ne_nil header.value.text_ne_nil] at last
    exact (header.value.text_chars (List.mem_of_mem_getLast? last)).2
  obtain ⟨kept, starts, trimmed⟩ := trim_append (header.afterText.takeWhile (· != ',')) (by simp) first last
  refine ⟨kept, ended_prefix (starts.trans (List.takeWhile_prefix _)) (ended_afterText header), ?_⟩
  rw [firstEntry, cut, trimmed]

private theorem beforeText_separated (element : Element) :
    ∀ last ∈ (element.beforeText.map toLowerCase).getLast?, last ∉ forMarker := by
  intro last found
  have same : last = ';' := by
    induction element with
    | nil => cases found
    | cons pair rest ih =>
      have text : Element.beforeText (pair :: rest) = optionalText pair ++ [';'] ++ Element.beforeText rest := rfl
      rw [text, List.map_append, List.getLast?_append, Option.mem_def, Option.or_eq_some_iff] at found
      rcases found with inRest | ⟨-, here⟩
      · exact ih inRest
      · simpa [show toLowerCase ';' = ';' from rfl] using here.symm
  rw [same]
  decide

theorem parse_plain_iff (short : header.text.length ≤ 1000)
    (plain : ∀ pair, some pair ∈ header.before → pair.Plain) :
    parseForwardedHeader header.text = some header.node.address.text ↔ header.value.Readable := by
  obtain ⟨noComma, noMarker⟩ := (plain_before_iff header.before).mp plain
  obtain ⟨kept, ended, entry⟩ := firstEntry_text header noComma
  have marker : forMarker <+: (header.forName ++ '=' :: header.value.text ++ kept).map toLowerCase := by
    simp [header.isFor, forMarker, show toLowerCase '=' = '=' from rfl]
  have found : indexOf forMarker ((firstEntry header.text).map toLowerCase) = some header.before.beforeText.length := by
    rw [entry, List.append_assoc, List.append_assoc, List.map_append,
      indexOf_append_of_not_infix noMarker (beforeText_separated _), ← List.append_assoc, indexOf_of_prefix marker]
    simp
  have three : header.forName.length = 3 := by simpa using congrArg List.length header.isFor
  have behind : (firstEntry header.text).drop (header.before.beforeText.length + 4) = header.value.text ++ kept := by
    have start : (header.before.beforeText ++ header.forName ++ ['=']).length = header.before.beforeText.length + 4 := by
      simp [three]
    rw [entry, ← start]
    simp
  rw [parseForwardedHeader_eq_some_iff short (isIp_text _), found, ← header.value.reads_iff ended, ← behind]
  simp

/-- What is found in front of the parameter ends there. -/
theorem found_before (disturbed : ¬ ∀ pair, some pair ∈ header.before → pair.Plain) {index : Nat}
    (found : indexOf forMarker ((firstEntry header.text).map toLowerCase) = some index) :
    index + 4 ≤ header.before.beforeText.length := by
  by_cases noComma : ',' ∉ header.before.beforeText
  · have marker : forMarker <:+: header.before.beforeText.map toLowerCase := by
      by_contra absent
      exact disturbed ((plain_before_iff header.before).mpr ⟨noComma, absent⟩)
    obtain ⟨kept, -, entry⟩ := firstEntry_text header noComma
    rw [entry, List.append_assoc, List.append_assoc, List.map_append] at found
    obtain ⟨first, here, bound⟩ := indexOf_append_of_infix marker
    rw [here] at found
    obtain rfl := Option.some.inj found
    simpa [forMarker] using bound
  · have bound := indexOf_le found
    have cut : (header.text.takeWhile (· != ',')).length ≤ header.before.beforeText.length := by
      obtain ⟨start, rest, before, absent⟩ := List.eq_append_cons_of_mem (not_not.mp noComma)
      have cut : header.text.takeWhile (· != ',') = start := by
        rw [ForwardedHeader.text, before, List.append_assoc, List.append_assoc, List.append_assoc,
          List.takeWhile_append_of_pos]
        · simp
        · intro char member
          exact bne_iff_ne.mpr (ne_of_mem_of_not_mem member absent)
      rw [cut, before, List.length_append]
      omega
    have short := length_firstEntry_le header.text
    rw [List.length_map, show forMarker.length = 4 from rfl] at bound
    omega

/-- The text of a node as it stands in quotes. -/
def Node.unescaped (node : Node) : List QuotedChar :=
  node.text.attach.map fun char : { char // char ∈ node.text } =>
    { escaped := false
      char := char.val
      valid := (isNodeChar_iff.mp (node.text_chars char.property)).2.2.2
      plain := fun _ => (isNodeChar_iff.mp (node.text_chars char.property)).2.2.1 }

theorem Node.map_unescaped (node : Node) : node.unescaped.map QuotedChar.char = node.text := by simp [Node.unescaped]

theorem Node.unescaped_plain (node : Node) : ∀ quoted ∈ node.unescaped, quoted.escaped = false := by
  intro quoted member
  obtain ⟨char, -, rfl⟩ := List.mem_map.mp member
  rfl

/-- A header of one parameter, with quotes. -/
def ForwardedHeader.ofNode (node : Node) : ForwardedHeader where
  before := []
  forName := ['f', 'o', 'r']
  isFor := rfl
  node
  value := .quoted node.unescaped node.map_unescaped
  after := []
  once := fun _ member => absurd member List.not_mem_nil
  others := []

/-- The header that the relay sends itself. -/
def ownHeader (address : IpAddress) : ForwardedHeader := .ofNode { address, port := none }

private theorem formatIpForForwardedHeader_eq (address : IpAddress) :
    formatIpForForwardedHeader address.text = addressText address := by
  cases address with
  | v4 four => exact if_neg fun brackets => four.colon_not_mem_text brackets.1
  | v6 six =>
    refine if_pos ⟨six.colon_mem_text, fun first => ?_⟩
    have absent : '[' ∉ (IpAddress.v6 six).text := not_mem_text _ (by decide)
    exact absent (List.mem_of_mem_head? first)

theorem mirrorNodeHeader_eq (address : IpAddress) :
    mirrorNodeHeader address.text = "for=\"".toList ++ addressText address ++ ['"'] :=
  congrArg (fun text => "for=\"".toList ++ text ++ ['"']) (formatIpForForwardedHeader_eq address)

theorem text_ownHeader (address : IpAddress) : (ownHeader address).text = mirrorNodeHeader address.text := by
  rw [mirrorNodeHeader_eq]
  simp [ForwardedHeader.text, ownHeader, ForwardedHeader.ofNode, Element.beforeText, NodeValue.text, quote,
    quotedText_plain (Node.unescaped_plain _), Node.map_unescaped, Node.text, ForwardedHeader.afterText]

private theorem mirrorNodeHeader_parsed (address : IpAddress) :
    parseForwardedHeader (mirrorNodeHeader address.text) = some address.text := by
  have brackets : (addressText address).length ≤ address.text.length + 2 := by
    cases address <;> simp [addressText, IpAddress.text]
  have short : (ownHeader address).text.length ≤ 1000 := by
    have bound := address.length_text_le
    rw [text_ownHeader, mirrorNodeHeader_eq]
    simp
    omega
  rw [← text_ownHeader]
  exact (parse_plain_iff (ownHeader address) short fun pair member => absurd member List.not_mem_nil).mpr
    ⟨rfl, Node.unescaped_plain _⟩

/-- The address is returned if nothing in front of its parameter disturbs it and it stands there in a
form that is read, or if it is found in front by chance; the header of the relay itself is always read. -/
theorem forwardedAddress_parsed_iff (header : ForwardedHeader) (short : header.text.length ≤ 1000) :
    (parseForwardedHeader header.text = some header.node.address.text ↔
      ((∀ pair, some pair ∈ header.before → pair.Plain) ∧ header.value.Readable) ∨ header.Misread) ∧
    ∀ address : IpAddress, parseForwardedHeader (mirrorNodeHeader address.text) = some address.text := by
  refine ⟨?_, mirrorNodeHeader_parsed⟩
  constructor
  · intro parsed
    by_cases plain : ∀ pair, some pair ∈ header.before → pair.Plain
    · exact .inl ⟨plain, (parse_plain_iff header short plain).mp parsed⟩
    · obtain ⟨index, found, reads⟩ := (parseForwardedHeader_eq_some_iff short (isIp_text _)).mp parsed
      exact .inr ⟨index, found_before header plain found, found, reads⟩
  · rintro (⟨plain, readable⟩ | ⟨index, -, found, reads⟩)
    · exact (parse_plain_iff header short plain).mpr readable
    · exact (parseForwardedHeader_eq_some_iff short (isIp_text _)).mpr ⟨index, found, reads⟩

/-- The address 192.0.2.1. -/
def exampleAddress : IpAddress := .v4 { first := 192, second := 0, third := 2, fourth := 1 }

theorem exampleAddress_parsed : parseForwardedHeader (ownHeader exampleAddress).text = some exampleAddress.text :=
  (forwardedAddress_parsed_iff (ownHeader exampleAddress) (by decide)).1.mpr
    (.inl ⟨fun pair member => absurd member List.not_mem_nil, rfl, Node.unescaped_plain _⟩)

/-- `for="192.0.2.1:80"` -/
def exampleWithPort : ForwardedHeader :=
  .ofNode { address := exampleAddress, port := some (.number ['8', '0'] (by decide) (by decide) (List.all_eq_true.mp rfl)) }

/-- The port is returned with the address. -/
theorem exampleWithPort_parsed : ¬ ∀ header : ForwardedHeader, header.text.length ≤ 1000 →
    parseForwardedHeader header.text = some header.node.address.text := by
  intro parsed
  exact absurd (parsed exampleWithPort (by decide)) (by decide)

end Main

end HieroRelay.Server
