import ApiDecl.Proofs.Trimming
import ApiDecl.Symbol.Documentation

/-!
# What cleaning leaves of a comment

A line of a comment has blanks around it, perhaps a delimiter at one end, and perhaps an asterisk
before its content. Cleaning takes these away in five steps, each of which sees what the one before
has left. `Framed` says in one piece what is around the content of a line.

The delimiters stand at the two ends of the comment. So they can be taken off the text as a whole,
before it is cut into lines (`cleanLines_enclosed`): what is left of a line is then trimmed and
loses its asterisk, and nothing else happens to it. Both main statements rest on this.

* `clean_formatted`: cleaning undoes the usual layouts of a comment.
* `clean_framed`: of any comment, nothing but the frames of its lines is lost.
-/

namespace ApiDecl.Documentation

open Text (Blank Tight trim trimStart trimEnd)

/-! ## One line -/

/-- What the opening delimiter adds to a line. -/
def openingOf (first : Bool) : List Char := if first then opening else []

/-- What the closing delimiter adds to a line. -/
def closingOf (last : Bool) : List Char := if last then closing else []

/-- What is left of a line without delimiters. -/
def lineContent (cs : List Char) : List Char := dropAsterisk (trim cs)

/-- A content with blanks around it and at most one asterisk before it. An asterisk that comes first
is not part of the content. -/
def Padded (cs content : List Char) : Prop :=
  ∃ gap star space trail, cs = gap ++ star ++ space ++ content ++ trail ∧
    Blank gap ∧ Blank space ∧ Blank trail ∧ Tight content ∧
    (star = ['*'] ∨ star = [] ∧ content.head? ≠ some '*')

/-- A line with its content. The first line starts with the opening delimiter and the last one ends
with the closing one. -/
def Framed (first last : Bool) (line content : List Char) : Prop :=
  ∃ cs, line = openingOf first ++ cs ++ closingOf last ∧ Padded cs content

theorem dropAsterisk_of_ne {cs : List Char} (h : cs.head? ≠ some '*') : dropAsterisk cs = cs := by
  unfold dropAsterisk
  split
  · simp at h
  · rfl

theorem trim_asterisk (cs : List Char) : trim ('*' :: cs) = '*' :: trimEnd cs := by
  have hstart : trimStart ('*' :: cs) = '*' :: cs :=
    Text.trimStart_eq_self_iff.mpr (by simp [Text.isBlank])
  rw [trim, hstart, ← List.singleton_append, Text.trimEnd_append_of_eq (by decide),
    List.singleton_append]

theorem lineContent_asterisk (cs : List Char) : lineContent ('*' :: cs) = trim cs := by
  rw [lineContent, trim_asterisk, dropAsterisk, Text.trimStart_trimEnd]

theorem Padded.eq {cs content : List Char} (h : Padded cs content) : content = lineContent cs := by
  obtain ⟨gap, star, space, trail, rfl, hgap, hspace, htrail, htight, hstar⟩ := h
  have hinner : trim (gap ++ star ++ space ++ content ++ trail) =
      trim (star ++ (space ++ content)) := by
    rw [Text.trim_append_blank htrail]
    simp only [List.append_assoc]
    rw [Text.trim_blank_append hgap]
  have hcontent : trim (space ++ content) = content := by
    rw [Text.trim_blank_append hspace, Text.trim_of_tight htight]
  rcases hstar with rfl | ⟨rfl, hhead⟩
  · rw [lineContent, hinner, ← lineContent, List.singleton_append, lineContent_asterisk, hcontent]
  · rw [lineContent, hinner, List.nil_append, hcontent, dropAsterisk_of_ne hhead]

theorem padded_lineContent (cs : List Char) : Padded cs (lineContent cs) := by
  obtain ⟨lead, trail, hlead, htrail, hcs⟩ := Text.exists_trim cs
  by_cases hhead : (trim cs).head? = some '*'
  · obtain ⟨rest, hrest⟩ := List.head?_eq_some_iff.mp hhead
    obtain ⟨space, hspace, hsplit⟩ := Text.exists_trimStart rest
    have hcontent : lineContent cs = trimStart rest := by rw [lineContent, hrest, dropAsterisk]
    -- What comes after the asterisk has no blank at its end, since the trimmed line has none.
    have hend : trimEnd rest = rest := by
      have h := Text.trimEnd_trim cs
      rw [hrest, ← List.singleton_append, Text.trimEnd_append_of_eq (by decide)] at h
      exact List.append_cancel_left h
    have htight : Tight (trimStart rest) := by
      have h := Text.tight_trim rest
      rwa [← Text.trimStart_trimEnd, hend] at h
    refine ⟨lead, ['*'], space, trail, ?_, hlead, hspace, htrail, hcontent ▸ htight, .inl rfl⟩
    nth_rewrite 1 [hcs]
    rw [hrest, hcontent, List.append_assoc _ space, ← hsplit]
    simp
  · have hcontent : lineContent cs = trim cs := dropAsterisk_of_ne hhead
    refine ⟨lead, [], [], trail, ?_, hlead, by simp [Blank], htrail, hcontent ▸ Text.tight_trim cs,
      .inr ⟨rfl, hcontent ▸ hhead⟩⟩
    nth_rewrite 1 [hcs]
    simp [hcontent]

theorem Padded.isInfix {cs content : List Char} (h : Padded cs content) : content <:+: cs := by
  obtain ⟨gap, star, space, trail, rfl, -⟩ := h
  exact List.infix_append _ _ _

theorem Padded.tight {cs content : List Char} (h : Padded cs content) : Tight content := by
  obtain ⟨_, _, _, _, -, -, -, -, htight, -⟩ := h
  exact htight

theorem trim_dropOpening (cs : List Char) :
    trim (dropOpening (trim (opening ++ cs))) = trim cs := by
  have hstart : trimStart (opening ++ cs) = opening ++ cs :=
    Text.trimStart_eq_self_iff.mpr (by simp [opening, Text.isBlank])
  have htrim : trim (opening ++ cs) = opening ++ trimEnd cs := by
    rw [trim, hstart, Text.trimEnd_append_of_eq (by decide)]
  rw [htrim, dropOpening, if_pos (by simp), List.drop_left, Text.trim_trimEnd]

theorem dropClosing_trim (cs : List Char) : dropClosing (trim (cs ++ closing)) = trim cs := by
  obtain ⟨lead, hlead, hcs⟩ := Text.exists_trimStart cs
  have htight : Tight (trimStart cs ++ closing) := by
    refine ⟨?_, by simp [closing, Text.isBlank]⟩
    cases hstart : trimStart cs with
    | nil => simp [closing, Text.isBlank]
    | cons c rest =>
      have hhead := Text.trimStart_eq_self_iff.mp (Text.trimStart_trimStart cs)
      rw [hstart] at hhead
      simpa using hhead
  have htrim : trim (cs ++ closing) = trimStart cs ++ closing := by
    nth_rewrite 1 [hcs]
    rw [List.append_assoc, Text.trim_blank_append hlead, Text.trim_of_tight htight]
  rw [htrim, dropClosing, if_pos (by simp)]
  simp [trim]

theorem dropClosing_of_not_suffix {cs : List Char} (h : ¬ closing <:+ cs) :
    dropClosing cs = cs := by
  rw [dropClosing, if_neg (by simpa using h)]

/-- On a line that does not seem to end a comment, the delimiters are all that is special. -/
theorem cleanLine_enclosed (first last : Bool) (cs : List Char)
    (h : last = false → ¬ closing <:+ trim cs) :
    cleanLine first (openingOf first ++ cs ++ closingOf last) = lineContent cs := by
  have hopening : ∀ ds,
      cleanLine first (openingOf first ++ ds) = dropAsterisk (dropClosing (trim ds)) := by
    intro ds
    cases first with
    | false => simp [cleanLine, openingOf]
    | true =>
      show dropAsterisk (dropClosing (trim (dropOpening (trim (opening ++ ds))))) = _
      rw [trim_dropOpening]
  rw [List.append_assoc, hopening, lineContent]
  cases last with
  | false => rw [closingOf, if_neg (by decide), List.append_nil, dropClosing_of_not_suffix (h rfl)]
  | true => rw [closingOf, if_pos rfl, dropClosing_trim]

/-! ## All lines -/

/-- The lines of a comment that has given lines between its delimiters. -/
def enclose (first : Bool) : List (List Char) → List (List Char)
  | [] => []
  | [cs] => [openingOf first ++ cs ++ closing]
  | cs :: next :: rest => (openingOf first ++ cs) :: enclose false (next :: rest)

theorem enclose_ne_nil (first : Bool) {ls : List (List Char)} (h : ls ≠ []) :
    enclose first ls ≠ [] := by
  cases ls with
  | nil => exact absurd rfl h
  | cons cs rest => cases rest <;> simp [enclose]

theorem intercalate_enclose (first : Bool) {ls : List (List Char)} (h : ls ≠ []) :
    ['\n'].intercalate (enclose first ls) =
      openingOf first ++ ['\n'].intercalate ls ++ closing := by
  induction ls generalizing first with
  | nil => exact absurd rfl h
  | cons cs rest ih =>
    cases rest with
    | nil => simp [enclose]
    | cons next rest =>
      have hrest := ih false (List.cons_ne_nil _ _)
      obtain ⟨line, lines, hlines⟩ := List.exists_cons_of_ne_nil
        (enclose_ne_nil false (List.cons_ne_nil next rest))
      rw [enclose, hlines, List.intercalate_cons_cons, ← hlines, hrest,
        List.intercalate_cons_cons]
      simp [openingOf]

theorem not_newline_mem_enclose {first : Bool} {ls : List (List Char)} (h : ∀ l ∈ ls, '\n' ∉ l) :
    ∀ l ∈ enclose first ls, '\n' ∉ l := by
  induction ls generalizing first with
  | nil => simp [enclose]
  | cons cs rest ih =>
    have hopening : '\n' ∉ openingOf first := by cases first <;> decide
    obtain ⟨hcs, hrest⟩ := List.forall_mem_cons.mp h
    cases rest with
    | nil => simp [enclose, hopening, hcs, closing]
    | cons next rest =>
      rw [enclose, List.forall_mem_cons]
      exact ⟨by simp [hopening, hcs], ih hrest⟩

/-- The delimiters can be put around a text or around its lines. -/
theorem splitOn_enclosed {ls : List (List Char)} (hne : ls ≠ []) (h : ∀ l ∈ ls, '\n' ∉ l) :
    (opening ++ ['\n'].intercalate ls ++ closing).splitOn '\n' = enclose true ls := by
  have hjoined := intercalate_enclose true hne
  rw [openingOf, if_pos rfl] at hjoined
  rw [← hjoined]
  exact List.splitOn_intercalate _ (not_newline_mem_enclose h) (enclose_ne_nil true hne)

theorem cleanLine_enclose (first : Bool) {cs : List Char} {rest : List (List Char)}
    (h : ∀ l ∈ (cs :: rest).dropLast, ¬ closing <:+ trim l) :
    ∃ line lines, enclose first (cs :: rest) = line :: lines ∧
      cleanLine first line :: lines.map (cleanLine false) = (cs :: rest).map lineContent := by
  induction rest generalizing first cs with
  | nil =>
    have hline := cleanLine_enclosed first true cs (by simp)
    exact ⟨_, [], rfl, congrArg ([·]) hline⟩
  | cons next rest ih =>
    obtain ⟨hcs, hrest⟩ := List.forall_mem_cons.mp h
    have hline := cleanLine_enclosed first false cs fun _ => hcs
    rw [closingOf, if_neg (by decide), List.append_nil] at hline
    obtain ⟨line, lines, henclose, hlines⟩ := ih false hrest
    refine ⟨_, _, rfl, ?_⟩
    rw [henclose, List.map_cons, hlines, hline, List.map_cons (l := next :: rest)]

/-- The lines of a comment are cleaned as if its delimiters stood on no line. Only the last line may
seem to end the comment. -/
theorem cleanLines_enclosed {ls : List (List Char)} (hne : ls ≠ []) (hlines : ∀ l ∈ ls, '\n' ∉ l)
    (h : ∀ l ∈ ls.dropLast, ¬ closing <:+ trim l) :
    cleanLines (opening ++ ['\n'].intercalate ls ++ closing) =
      (ls.map lineContent).filter (!·.isEmpty) := by
  obtain ⟨cs, rest, rfl⟩ := List.exists_cons_of_ne_nil hne
  obtain ⟨line, lines, henclose, hclean⟩ := cleanLine_enclose true h
  rw [cleanLines, Text.splitOn_eq, splitOn_enclosed hne hlines, henclose]
  exact congrArg (List.filter _) hclean

/-! ## Layouts -/

/-- How lines end. -/
inductive LineEnd
  | lf
  | crlf
deriving DecidableEq

/-- What stands before the line feed. -/
def LineEnd.lead : LineEnd → List Char
  | lf => []
  | crlf => ['\r']

/-- The characters of a line end. -/
def LineEnd.chars (e : LineEnd) : List Char := e.lead ++ ['\n']

/-- Blanks that stay on their line. -/
def Indentation (cs : List Char) : Prop := Blank cs ∧ '\n' ∉ cs

instance (cs : List Char) : Decidable (Indentation cs) := inferInstanceAs (Decidable (_ ∧ _))

/-- A line of documentation. -/
structure DocLine (line : List Char) : Prop where
  ne_nil : line ≠ []
  newline : '\n' ∉ line
  tight : Tight line
  closing : ¬ closing <:+ line

instance (line : List Char) : Decidable (DocLine line) :=
  decidable_of_iff (line ≠ [] ∧ '\n' ∉ line ∧ Tight line ∧ ¬ Documentation.closing <:+ line)
    ⟨fun ⟨h₁, h₂, h₃, h₄⟩ => ⟨h₁, h₂, h₃, h₄⟩, fun ⟨h₁, h₂, h₃, h₄⟩ => ⟨h₁, h₂, h₃, h₄⟩⟩

/-- A comment over several lines. Each line of documentation comes with an indentation, and so does
the closing delimiter. -/
def formatted (e : LineEnd) (lines : List (List Char × List Char)) (indent : List Char) :
    List Char :=
  opening ++ e.chars ++ (lines.flatMap fun (i, line) => i ++ ['*', ' '] ++ line ++ e.chars) ++
    indent ++ closing

/-- A comment on one line. -/
def oneLine (line : List Char) : List Char := opening ++ [' '] ++ line ++ [' '] ++ closing

/-- What such a comment has between its delimiters, line by line. -/
def formattedLines (e : LineEnd) (lines : List (List Char × List Char)) (indent : List Char) :
    List (List Char) :=
  e.lead :: (lines.map fun (i, line) => i ++ ['*', ' '] ++ line ++ e.lead) ++ [indent]

theorem formatted_eq (e : LineEnd) (lines : List (List Char × List Char)) (indent : List Char) :
    formatted e lines indent =
      opening ++ ['\n'].intercalate (formattedLines e lines indent) ++ closing := by
  have hlines : ∀ first : List Char, first ++ ['\n'] ++
      (lines.flatMap fun (i, line) => i ++ ['*', ' '] ++ line ++ e.chars) ++ indent =
        ['\n'].intercalate (first ::
          (lines.map fun (i, line) => i ++ ['*', ' '] ++ line ++ e.lead) ++ [indent]) := by
    induction lines with
    | nil => intro first; simp
    | cons line lines ih =>
      intro first
      have hrest := ih (line.1 ++ ['*', ' '] ++ line.2 ++ e.lead)
      rw [List.map_cons, List.cons_append, List.cons_append, List.intercalate_cons_cons,
        ← List.cons_append, ← hrest]
      simp [LineEnd.chars]
  rw [formatted, formattedLines, ← hlines, LineEnd.chars]
  simp

theorem blank_lead (e : LineEnd) : Blank e.lead := by cases e <;> decide

theorem newline_notMem_lead (e : LineEnd) : '\n' ∉ e.lead := by cases e <;> decide

theorem lineContent_blank {cs : List Char} (h : Blank cs) : lineContent cs = [] := by
  rw [lineContent, Text.trim_eq_nil_iff.mpr h, dropAsterisk_of_ne (by simp)]

/-- The middle lines: the asterisk of the layout goes, and one of the line itself stays. -/
theorem trim_formattedLine {i line trail : List Char} (hi : Blank i) (hline : DocLine line)
    (htrail : Blank trail) : trim (i ++ ['*', ' '] ++ line ++ trail) = ['*', ' '] ++ line := by
  have htight : Tight (['*', ' '] ++ line) := by
    refine ⟨by simp [Text.isBlank], ?_⟩
    rw [List.getLast?_append_of_ne_nil _ hline.ne_nil]
    exact hline.tight.2
  rw [Text.trim_append_blank htrail, List.append_assoc, Text.trim_blank_append hi,
    Text.trim_of_tight htight]

theorem lineContent_formattedLine {i line trail : List Char} (hi : Blank i) (hline : DocLine line)
    (htrail : Blank trail) : lineContent (i ++ ['*', ' '] ++ line ++ trail) = line := by
  have hspace : Blank [' '] := by decide
  rw [lineContent, trim_formattedLine hi hline htrail]
  show trimStart ([' '] ++ line) = line
  rw [Text.trimStart_blank_append hspace, Text.trimStart_eq_self_iff.mpr hline.tight.1]

theorem not_closing_formattedLine {i line trail : List Char} (hi : Blank i) (hline : DocLine line)
    (htrail : Blank trail) : ¬ closing <:+ trim (i ++ ['*', ' '] ++ line ++ trail) := by
  rw [trim_formattedLine hi hline htrail]
  intro h
  by_cases hlength : closing.length ≤ line.length
  · exact hline.closing (List.suffix_of_suffix_length_le h (List.suffix_append _ _) hlength)
  · -- A line of one character has a blank before it here, and no asterisk.
    obtain ⟨c, rfl⟩ : ∃ c, line = [c] := by
      have hne := hline.ne_nil
      match line with
      | [] => exact absurd rfl hne
      | [c] => exact ⟨c, rfl⟩
      | _ :: _ :: _ => simp [closing] at hlength
    have hends : closing = [' ', c] :=
      (List.suffix_of_suffix_length_le h ⟨['*'], rfl⟩ (by simp [closing])).eq_of_length rfl
    simp [closing] at hends

theorem cleanLines_formatted (e : LineEnd) {lines : List (List Char × List Char)}
    {indent : List Char} (hindent : Indentation indent)
    (hlines : ∀ l ∈ lines, Indentation l.1 ∧ DocLine l.2) :
    cleanLines (formatted e lines indent) = lines.map (·.2) := by
  have hnewlines : ∀ l ∈ formattedLines e lines indent, '\n' ∉ l := by
    intro l hl
    simp only [formattedLines, List.mem_append, List.mem_cons, List.mem_map, List.not_mem_nil,
      or_false] at hl
    rcases hl with (rfl | ⟨⟨i, line⟩, hmem, rfl⟩) | rfl
    · exact newline_notMem_lead e
    · obtain ⟨hi, hline⟩ := hlines _ hmem
      simp [hi.2, hline.newline, newline_notMem_lead e]
    · exact hindent.2
  have hclosing : ∀ l ∈ (formattedLines e lines indent).dropLast, ¬ closing <:+ trim l := by
    intro l hl
    rw [formattedLines, List.dropLast_concat, List.mem_cons, List.mem_map] at hl
    rcases hl with rfl | ⟨⟨i, line⟩, hmem, rfl⟩
    · rw [Text.trim_eq_nil_iff.mpr (blank_lead e)]
      simp [closing]
    · obtain ⟨hi, hline⟩ := hlines _ hmem
      exact not_closing_formattedLine hi.1 hline (blank_lead e)
  have hcontents : (lines.map fun (i, line) => i ++ ['*', ' '] ++ line ++ e.lead).map lineContent =
      lines.map (·.2) := by
    rw [List.map_map]
    refine List.map_congr_left fun l hmem => ?_
    obtain ⟨hi, hline⟩ := hlines l hmem
    exact lineContent_formattedLine hi.1 hline (blank_lead e)
  have hkept : (lines.map (·.2)).filter (!·.isEmpty) = lines.map (·.2) := by
    refine List.filter_eq_self.mpr fun line hline => ?_
    obtain ⟨l, hmem, rfl⟩ := List.mem_map.mp hline
    simpa using (hlines l hmem).2.ne_nil
  rw [formatted_eq, cleanLines_enclosed (by simp [formattedLines]) hnewlines hclosing,
    formattedLines, List.map_append, List.map_cons, hcontents, lineContent_blank (blank_lead e),
    List.map_singleton, lineContent_blank hindent.1]
  simp [hkept]

theorem cleanLines_oneLine {line : List Char} (hline : DocLine line)
    (hstar : line.head? ≠ some '*') : cleanLines (oneLine line) = [line] := by
  have hspace : Blank [' '] := by decide
  have hcontent : lineContent ([' '] ++ line ++ [' ']) = line := by
    rw [lineContent, Text.trim_append_blank hspace, Text.trim_blank_append hspace,
      Text.trim_of_tight hline.tight, dropAsterisk_of_ne hstar]
  have hone : oneLine line = opening ++ ['\n'].intercalate [[' '] ++ line ++ [' ']] ++ closing := by
    simp [oneLine]
  rw [hone, cleanLines_enclosed (by simp) (by simpa using hline.newline) (by simp),
    List.map_singleton, hcontent]
  simp [hline.ne_nil]

/-- **Cleaning undoes the layout of a comment.** Lines with an asterisk and an indentation of their
own, between delimiters on lines of their own, come back as they are, whatever ends the lines and
also where a line starts with an asterisk itself. A line that does not start with one also comes
back from a comment on one line. -/
theorem clean_formatted (e : LineEnd) {lines : List (List Char × List Char)} {indent : List Char}
    (hindent : Indentation indent) (hlines : ∀ l ∈ lines, Indentation l.1 ∧ DocLine l.2) :
    clean (formatted e lines indent) = ['\n'].intercalate (lines.map (·.2)) ∧
      ∀ line, DocLine line → line.head? ≠ some '*' → clean (oneLine line) = line := by
  constructor
  · rw [clean, cleanLines_formatted e hindent hlines, Text.joinWith_eq]
  · intro line hline hstar
    rw [clean, cleanLines_oneLine hline hstar, Text.joinWith_eq, List.intercalate_singleton]

/-- Lines that start with an asterisk, hold a closing delimiter, or would make one with the asterisk
before them if no blank stood between. -/
def sampleLines : List (List Char × List Char) :=
  [("  ".toList, "* item".toList), ("\t".toList, "a */ b".toList), ([], "/".toList)]

theorem clean_formatted_sample :
    (∀ l ∈ sampleLines, Indentation l.1 ∧ DocLine l.2) ∧
      clean (formatted .crlf sampleLines [' ']) = "* item\na */ b\n/".toList ∧
      clean (oneLine "a */ b".toList) = "a */ b".toList := by
  have hlines : ∀ l ∈ sampleLines, Indentation l.1 ∧ DocLine l.2 := by decide +kernel
  have hclean := clean_formatted .crlf (by decide : Indentation [' ']) hlines
  exact ⟨hlines, hclean.1.trans (by decide), hclean.2 _ (by decide +kernel) (by decide)⟩

/-! ## Comments of any layout -/

/-- Contents of lines that come one after the other and end the comment. The first of them may start
it. -/
inductive Contents : (first : Bool) → (lines contents : List (List Char)) → Prop
  | last {first : Bool} {line content : List Char} : Framed first true line content →
      Contents first [line] [content]
  | more {first : Bool} {line next content : List Char} {lines contents : List (List Char)} :
      Framed first false line content → Contents false (next :: lines) contents →
      Contents first (line :: next :: lines) (content :: contents)

theorem Framed.unique {first last : Bool} {line content content' : List Char}
    (h : Framed first last line content) (h' : Framed first last line content') :
    content' = content := by
  obtain ⟨cs, rfl, hcontent⟩ := h
  obtain ⟨ds, hsame, hcontent'⟩ := h'
  obtain rfl := List.append_cancel_left (List.append_cancel_right hsame)
  rw [hcontent.eq, hcontent'.eq]

theorem Contents.unique {first : Bool} {lines contents contents' : List (List Char)}
    (h : Contents first lines contents) (h' : Contents first lines contents') :
    contents' = contents := by
  induction h generalizing contents' with
  | last hline =>
    cases h' with
    | last hline' => rw [hline.unique hline']
  | more hline _ ih =>
    cases h' with
    | more hline' hrest' => rw [hline.unique hline', ih hrest']

theorem contents_enclose (first : Bool) (cs : List Char) (rest : List (List Char)) :
    Contents first (enclose first (cs :: rest)) ((cs :: rest).map lineContent) := by
  induction rest generalizing first cs with
  | nil => exact .last ⟨cs, rfl, padded_lineContent cs⟩
  | cons next rest ih =>
    have hline : Framed first false (openingOf first ++ cs) (lineContent cs) :=
      ⟨cs, by simp [closingOf], padded_lineContent cs⟩
    have hrest := ih false next
    obtain ⟨line, lines, hlines⟩ := List.exists_cons_of_ne_nil
      (enclose_ne_nil false (List.cons_ne_nil next rest))
    rw [hlines] at hrest
    rw [enclose, hlines]
    exact .more hline hrest

/-- A comment that starts with its opening delimiter and ends with its closing one has a text
between the two, as soon as they do not share their asterisks. -/
theorem exists_body {text : List Char} (hlength : 5 ≤ text.length) (hopening : opening <+: text)
    (hclosing : closing <:+ text) : ∃ body, text = opening ++ body ++ closing := by
  obtain ⟨rest, rfl⟩ := hopening
  have hrest : closing.length ≤ rest.length := by
    simp only [List.length_append, opening, List.length_cons, List.length_nil] at hlength
    simp only [closing, List.length_cons, List.length_nil]
    omega
  obtain ⟨body, rfl⟩ :=
    List.suffix_of_suffix_length_le hclosing (List.suffix_append opening rest) hrest
  exact ⟨body, by simp⟩

theorem newline_notMem_line {body l : List Char} (hl : l ∈ body.splitOn '\n') : '\n' ∉ l := by
  rw [← Text.splitOn_eq] at hl
  exact Text.not_mem_of_mem_splitOn hl

theorem splitOn_delimited (body : List Char) :
    (opening ++ body ++ closing).splitOn '\n' = enclose true (body.splitOn '\n') := by
  have hlines := splitOn_enclosed (List.splitOn_ne_nil '\n' body) fun _ => newline_notMem_line
  rwa [List.intercalate_splitOn] at hlines

theorem not_closing_line {body l : List Char} (h : ¬ closing <:+: body)
    (hl : l ∈ body.splitOn '\n') : ¬ closing <:+: l := by
  intro hclosing
  have hpart : l <:+: ['\n'].intercalate (body.splitOn '\n') := Text.infix_intercalate hl
  rw [List.intercalate_splitOn] at hpart
  exact h (hclosing.trans hpart)

theorem cleanLines_delimited {body : List Char} (h : ¬ closing <:+: body) :
    cleanLines (opening ++ body ++ closing) =
      ((body.splitOn '\n').map lineContent).filter (!·.isEmpty) := by
  have hends : ∀ l ∈ (body.splitOn '\n').dropLast, ¬ closing <:+ trim l := by
    intro l hl hclosing
    refine not_closing_line h (List.dropLast_subset _ hl) (hclosing.isInfix.trans ?_)
    obtain ⟨lead, trail, -, -, hsplit⟩ := Text.exists_trim l
    nth_rewrite 2 [hsplit]
    exact List.infix_append _ _ _
  have hclean := cleanLines_enclosed (List.splitOn_ne_nil '\n' body)
    (fun _ => newline_notMem_line) hends
  rwa [List.intercalate_splitOn] at hclean

/-- **Cleaning a comment loses nothing but the frames of its lines.** Take a text that starts with
`/**` and ends with the only `*/` in it, where the two do not overlap. Each of its lines has one
content, after blanks, the opening delimiter on the first line and at most one more asterisk, and
before blanks and the closing delimiter on the last line. The cleaned text consists of the contents
that are not empty. They have no blanks at their ends, and no closing delimiter is left. -/
theorem clean_framed {text : List Char} (hlength : 5 ≤ text.length) (hopening : opening <+: text)
    (hclosing : closing <:+ text)
    (honce : ∀ before after, text = before ++ closing ++ after → after = []) :
    ¬ closing <:+: clean text ∧
      ∃ contents, Contents true (text.splitOn '\n') contents ∧
        (∀ others, Contents true (text.splitOn '\n') others → others = contents) ∧
        clean text = ['\n'].intercalate (contents.filter (!·.isEmpty)) ∧
        ∀ content ∈ contents, Tight content ∧ '\n' ∉ content := by
  obtain ⟨body, rfl⟩ := exists_body hlength hopening hclosing
  have hbody : ¬ closing <:+: body := by
    rintro ⟨before, after, rfl⟩
    have hnil := honce (opening ++ before) (after ++ closing) (by simp)
    simp [closing] at hnil
  have hclean : clean (opening ++ body ++ closing) =
      ['\n'].intercalate (((body.splitOn '\n').map lineContent).filter (!·.isEmpty)) := by
    rw [clean, cleanLines_delimited hbody, Text.joinWith_eq]
  have hcontents : Contents true ((opening ++ body ++ closing).splitOn '\n')
      ((body.splitOn '\n').map lineContent) := by
    obtain ⟨cs, rest, hlines⟩ := List.exists_cons_of_ne_nil (List.splitOn_ne_nil '\n' body)
    rw [splitOn_delimited, hlines]
    exact contents_enclose true cs rest
  refine ⟨?_, _, hcontents, fun others h => hcontents.unique h, hclean, ?_⟩
  · rw [hclean]
    intro h
    obtain ⟨content, hcontent, h⟩ := Text.exists_infix_of_intercalate (by decide) (by decide) h
    obtain ⟨l, hl, rfl⟩ := List.mem_map.mp (List.mem_filter.mp hcontent).1
    exact not_closing_line hbody hl (h.trans (padded_lineContent l).isInfix)
  · intro content hcontent
    obtain ⟨l, hl, rfl⟩ := List.mem_map.mp hcontent
    refine ⟨(padded_lineContent l).tight, fun hnewline => ?_⟩
    exact newline_notMem_line hl ((padded_lineContent l).isInfix.subset hnewline)

theorem closes_once {text : List Char} (h : ¬ closing <:+: text.dropLast) :
    ∀ before after, text = before ++ closing ++ after → after = [] := by
  rintro before after rfl
  by_contra hne
  rw [List.dropLast_append_of_ne_nil hne] at h
  exact h (List.infix_append _ _ _)

/-- A comment with text beside its delimiters, rows of asterisks and an empty line. -/
def sampleComment : List Char := "/*** a \n \t ** b *c\n *\n\n**/".toList

theorem clean_framed_sample :
    5 ≤ sampleComment.length ∧ opening <+: sampleComment ∧ closing <:+ sampleComment ∧
      (∀ before after, sampleComment = before ++ closing ++ after → after = []) ∧
      ¬ closing <:+: clean sampleComment ∧
      ∃ contents, Contents true (sampleComment.splitOn '\n') contents ∧
        "a\n* b *c".toList = ['\n'].intercalate (contents.filter (!·.isEmpty)) := by
  have hlength : 5 ≤ sampleComment.length := by decide
  have hopening : opening <+: sampleComment := by decide
  have hclosing : closing <:+ sampleComment := by decide
  have honce := closes_once (by decide +kernel : ¬ closing <:+: sampleComment.dropLast)
  have htext : clean sampleComment = "a\n* b *c".toList := by decide +kernel
  obtain ⟨hnone, contents, hcontents, -, hclean, -⟩ :=
    clean_framed hlength hopening hclosing honce
  exact ⟨hlength, hopening, hclosing, honce, hnone, contents, hcontents, htext ▸ hclean⟩

end ApiDecl.Documentation
