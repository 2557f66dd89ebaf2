import LiveTable.Filter
set_option autoImplicit false

/-!
# Reading filters back

The grammar of compiled filters: one or more terms with the connective between them, where a term is
a quote, any number of marks, a quote and a star, and a mark is a doubled quote or any other
character. `Terms` are its parse trees. `read?` goes through a line once from left to right and
gives the one tree that is written so, by `read?_eq_some_iff`. What is compiled from a text reads
back as the pieces of the text. Main statement: `compiled_filter_reads_back`.
-/

namespace LiveTable.Filter

/-- What stands between the quotes of a term: a doubled quote, or another character for itself. -/
inductive Mark
  | quote
  | plain (c : Char) (other : c ≠ '"')
deriving DecidableEq

def Mark.written : Mark → List Char
  | quote => ['"', '"']
  | plain c _ => [c]

def content (marks : List Mark) : List Char := marks.flatMap Mark.written

/-- Two quotes of one kind are one, everything else stands for itself. -/
def collapse : List Char → List Char
  | '"' :: '"' :: rest => '"' :: collapse rest
  | '\'' :: '\'' :: rest => '\'' :: collapse rest
  | c :: rest => c :: collapse rest
  | [] => []

def decoded (marks : List Mark) : List Char := collapse (content marks)

structure Terms where
  first : List Mark
  others : List (List Mark)
deriving DecidableEq

namespace Terms

def toList (terms : Terms) : List (List Mark) := terms.first :: terms.others

def behindQuote (terms : Terms) : List Char :=
  content terms.first ++ '"' :: '*' ::
    terms.others.flatMap fun term => connective ++ '"' :: content term ++ ['"', '*']

def written (terms : Terms) : List Char := '"' :: terms.behindQuote

end Terms

/-- Reads what stands behind an opening quote: the rest of this term, and the terms after it. -/
def readBehindQuote? : List Char → Option Terms
  | [] => none
  | '"' :: '"' :: rest =>
    (readBehindQuote? rest).map fun read => ⟨.quote :: read.first, read.others⟩
  | ['"', '*'] => some ⟨[], []⟩
  | '"' :: '*' :: ' ' :: 'A' :: 'N' :: 'D' :: ' ' :: '"' :: rest =>
    (readBehindQuote? rest).map fun read => ⟨[], read.toList⟩
  | c :: rest =>
    if quote : c = '"' then none
    else (readBehindQuote? rest).map fun read => ⟨.plain c quote :: read.first, read.others⟩

def read? : List Char → Option Terms
  | '"' :: rest => readBehindQuote? rest
  | _ => none

/-! ## One way of reading -/

variable {marks next : List Mark} {others : List (List Mark)} {terms : Terms} {line : List Char}

private theorem behindQuote_quote :
    Terms.behindQuote ⟨.quote :: marks, others⟩ =
      '"' :: '"' :: Terms.behindQuote ⟨marks, others⟩ := rfl

private theorem behindQuote_plain {c : Char} (other : c ≠ '"') :
    Terms.behindQuote ⟨.plain c other :: marks, others⟩ =
      c :: Terms.behindQuote ⟨marks, others⟩ := rfl

private theorem behindQuote_close :
    Terms.behindQuote ⟨[], next :: others⟩ =
      '"' :: '*' :: ' ' :: 'A' :: 'N' :: 'D' :: ' ' :: '"' :: Terms.behindQuote ⟨next, others⟩ := by
  simp [Terms.behindQuote, content, connective]

private theorem readBehindQuote?_plain {c : Char} (other : c ≠ '"') (rest : List Char) :
    readBehindQuote? (c :: rest) =
      (readBehindQuote? rest).map fun read => ⟨.plain c other :: read.first, read.others⟩ := by
  rw [readBehindQuote?, dif_neg other]
  all_goals simp [other]

private theorem readBehindQuote?_behindQuote (terms : Terms) :
    readBehindQuote? terms.behindQuote = some terms := by
  obtain ⟨marks, others⟩ := terms
  -- A term is read mark by mark, and behind its closing quote the next one is.
  have term (marks : List Mark) (others : List (List Mark))
      (closed : readBehindQuote? (Terms.behindQuote ⟨[], others⟩) = some ⟨[], others⟩) :
      readBehindQuote? (Terms.behindQuote ⟨marks, others⟩) = some ⟨marks, others⟩ := by
    induction marks with
    | nil => exact closed
    | cons mark marks ih =>
      cases mark with
      | quote => rw [behindQuote_quote, readBehindQuote?, ih, Option.map_some]
      | plain c other => rw [behindQuote_plain, readBehindQuote?_plain other, ih, Option.map_some]
  induction others generalizing marks with
  | nil => exact term marks [] rfl
  | cons next others ih =>
    apply term
    rw [behindQuote_close, readBehindQuote?, ih, Option.map_some]
    rfl

private theorem behindQuote_of_readBehindQuote? (read : readBehindQuote? line = some terms) :
    terms.behindQuote = line := by
  fun_induction readBehindQuote? line generalizing terms with
  | case1 => cases read
  | case2 rest ih =>
    obtain ⟨later, found, rfl⟩ := Option.map_eq_some_iff.mp read
    rw [behindQuote_quote, ih found]
  | case3 =>
    cases read
    rfl
  | case4 rest ih =>
    obtain ⟨later, found, rfl⟩ := Option.map_eq_some_iff.mp read
    rw [Terms.toList, behindQuote_close, ih found]
  | case5 => cases read
  | case6 c rest _ _ _ other ih =>
    obtain ⟨later, found, rfl⟩ := Option.map_eq_some_iff.mp read
    rw [behindQuote_plain, ih found]

theorem read?_eq_some_iff : read? line = some terms ↔ terms.written = line := by
  constructor
  · intro read
    unfold read? at read
    split at read
    · rw [Terms.written, behindQuote_of_readBehindQuote? read]
    · cases read
  · rintro rfl
    exact readBehindQuote?_behindQuote terms

private theorem written_injective : Function.Injective Terms.written := by
  intro terms other same
  have read : read? other.written = some terms := read?_eq_some_iff.mpr same
  rw [read?_eq_some_iff.mpr rfl] at read
  exact (Option.some.inj read).symm

/-! ## Escaping -/

private theorem collapse_of_ne {c : Char} (double : c ≠ '"') (single : c ≠ '\'')
    (rest : List Char) :
    collapse (c :: rest) = c :: collapse rest := by
  rw [collapse]
  all_goals simp [double, single]

private theorem collapse_escape (word : List Char) : collapse (escape word) = word := by
  induction word with
  | nil => rfl
  | cons c word ih =>
    by_cases double : c = '"'
    · subst double
      simp [escape, collapse, ih]
    · by_cases single : c = '\''
      · subst single
        simp [escape, collapse, ih]
      · simp [escape, double, single, collapse_of_ne, ih]

private theorem exists_marks (word : List Char) :
    ∃ marks, content marks = escape word ∧ decoded marks = word := by
  suffices made : ∃ marks, content marks = escape word by
    obtain ⟨marks, same⟩ := made
    exact ⟨marks, same, by rw [decoded, same, collapse_escape]⟩
  induction word with
  | nil => exact ⟨[], rfl⟩
  | cons c word ih =>
    obtain ⟨marks, same⟩ := ih
    by_cases double : c = '"'
    · subst double
      exact ⟨.quote :: marks, by simp [content, Mark.written, escape, ← same]⟩
    · by_cases single : c = '\''
      · exact ⟨.plain c double :: .plain c double :: marks,
          by simp [content, Mark.written, escape, single, ← same]⟩
      · exact ⟨.plain c double :: marks,
          by simp [content, Mark.written, escape, double, single, ← same]⟩

private theorem exists_terms (word : List Char) (words : List (List Char)) :
    ∃ terms : Terms, terms.written = join ((word :: words).map term) ∧
      terms.toList.map decoded = word :: words := by
  induction words generalizing word with
  | nil =>
    obtain ⟨marks, same, reads⟩ := exists_marks word
    refine ⟨⟨marks, []⟩, ?_, by simp [Terms.toList, reads]⟩
    simp [Terms.written, Terms.behindQuote, join, term, same]
  | cons next words ih =>
    obtain ⟨marks, same, reads⟩ := exists_marks word
    obtain ⟨terms, written, decodes⟩ := ih next
    have behind : Terms.behindQuote ⟨marks, terms.toList⟩ =
        escape word ++ '"' :: '*' :: connective ++ terms.written := by
      simp [Terms.behindQuote, Terms.written, Terms.toList, same]
    refine ⟨⟨marks, terms.toList⟩, ?_, ?_⟩
    · rw [Terms.written, behind, written]
      simp [join, term]
    · rw [← decodes, ← reads]
      rfl

/-! ## Pieces -/

private theorem pieces_eq_splitOn (text : List Char) : pieces text = text.splitOn ' ' := by
  induction text with
  | nil => rfl
  | cons c text ih =>
    rw [pieces, List.splitOn_cons_eq_if_modifyHead, ih]
    by_cases space : c = ' '
    · simp [space]
    · cases split : text.splitOn ' ' with
      | nil => exact absurd split (List.splitOn_ne_nil _ _)
      | cons piece others => simp [space]

private theorem length_pieces (text : List Char) : (pieces text).length = text.count ' ' + 1 := by
  induction text with
  | nil => rfl
  | cons c text ih =>
    by_cases space : c = ' '
    · simp [pieces, space, ih]
    · cases split : pieces text with
      | nil => simp [split] at ih
      | cons piece others => simpa [pieces, space, split] using ih

/-! ## Compiled texts -/

private theorem exists_terms_of_compile {text : String} (filled : text ≠ "") :
    ∃ terms : Terms, terms.written = (compile text).toList ∧
      terms.toList.map decoded = pieces text.toList := by
  have compiled : (compile text).toList = join ((pieces text.toList).map term) := by
    rw [compile, if_neg (by simpa using filled), String.toList_ofList]
  rw [compiled]
  cases split : pieces text.toList with
  | nil =>
    rw [pieces_eq_splitOn] at split
    exact absurd split (List.splitOn_ne_nil _ _)
  | cons word words => exact exists_terms word words

private theorem compile_ne_empty {text : String} (filled : text ≠ "") : compile text ≠ "" := by
  intro empty
  obtain ⟨terms, written, -⟩ := exists_terms_of_compile filled
  rw [empty] at written
  cases written

private theorem pieces_injective : Function.Injective pieces := by
  intro text other same
  rw [pieces_eq_splitOn, pieces_eq_splitOn] at same
  have joined := congrArg (List.intercalate [' ']) same
  rwa [List.intercalate_splitOn, List.intercalate_splitOn] at joined

private theorem compile_injective : Function.Injective compile := by
  intro text other same
  by_cases empty : text = ""
  · by_cases empty' : other = ""
    · rw [empty, empty']
    · rw [empty] at same
      exact absurd same.symm (compile_ne_empty empty')
  · by_cases empty' : other = ""
    · rw [empty'] at same
      exact absurd same (compile_ne_empty empty)
    · obtain ⟨terms, written, decodes⟩ := exists_terms_of_compile empty
      obtain ⟨terms', written', decodes'⟩ := exists_terms_of_compile empty'
      have equal : terms = terms' := written_injective (by rw [written, written', same])
      have pieces : pieces text.toList = pieces other.toList := by
        rw [← decodes, ← decodes', equal]
      exact String.toList_inj.mp (pieces_injective pieces)

/-- No text is compiled to no filter. Any other text is compiled to a line that is read in exactly
one way: as terms which stand, two quotes of one kind being one, for the pieces of the text between
single spaces, in their order. So there is one term more than there are spaces, whatever else the
text is made of, and the pieces with spaces between them are the text. Whatever the line, a reader
that goes through it from left to right reads it as the terms that are written so. Different texts
are compiled to different lines. -/
theorem compiled_filter_reads_back :
    compile "" = "" ∧
    (∀ text : String, text ≠ "" →
      ∃ terms : Terms, read? (compile text).toList = some terms ∧
        (∀ other : Terms, other.written = (compile text).toList ↔ other = terms) ∧
        terms.toList.map decoded = text.toList.splitOn ' ' ∧
        [' '].intercalate (terms.toList.map decoded) = text.toList ∧
        terms.toList.length = text.toList.count ' ' + 1) ∧
    (∀ (line : List Char) (terms : Terms), read? line = some terms ↔ terms.written = line) ∧
    Function.Injective compile := by
  refine ⟨rfl, ?_, fun _ _ => read?_eq_some_iff, compile_injective⟩
  intro text filled
  obtain ⟨terms, written, decodes⟩ := exists_terms_of_compile filled
  refine ⟨terms, read?_eq_some_iff.mpr written, ?_, ?_, ?_, ?_⟩
  · intro other
    rw [← written, written_injective.eq_iff]
  · rw [decodes, pieces_eq_splitOn]
  · rw [decodes, pieces_eq_splitOn, List.intercalate_splitOn]
  · rw [← List.length_map decoded, decodes, length_pieces]

theorem compiled_filter_reads_back_of_hostile :
    let text := "x\" AND \"y* it's"
    ∃ terms : Terms, read? (compile text).toList = some terms ∧
      terms.toList.map decoded = ["x\"".toList, "AND".toList, "\"y*".toList, "it's".toList] ∧
      (∀ other : Terms, other.written = (compile text).toList ↔ other = terms) := by
  intro text
  obtain ⟨terms, read, unique, decodes, -, -⟩ :=
    compiled_filter_reads_back.2.1 text (by decide)
  exact ⟨terms, read, decodes.trans (by decide), unique⟩

end LiveTable.Filter
