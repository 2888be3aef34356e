-- Documents as they may be laid out: with spaces, comments and empty lines,
-- and each section under its header, with dotted names, or as an inline
-- table. Whatever the layout, the document is read as its parts.
import NodeSettings.Proofs.Parts
import NodeSettings.Proofs.Tokens

namespace NodeSettings.Toml

variable {rest : List Char}

/-! ## Spaces and line ends -/

/-- Spaces and tabs within a line. -/
structure Spaces where
  text : List Char
  blank : ∀ c ∈ text, isSpace c = true

/-- No space at all. -/
def Spaces.none : Spaces := ⟨[], by simp⟩

def Spaces.append (s t : Spaces) : Spaces where
  text := s.text ++ t.text
  blank c hc := (List.mem_append.1 hc).elim (s.blank c) (t.blank c)

/-- What ends a line behind a statement, and makes up a line without one: spaces, a comment if there
is one, and a line feed, which may have a carriage return in front. -/
structure LineEnd where
  spaces : Spaces
  comment : Option (List Char)
  carriageReturn : Bool
  readable : ∀ cs ∈ comment, ∀ c ∈ cs, isCommentChar c = true

/-- A line feed alone. -/
def LineEnd.feed : LineEnd := ⟨.none, none, false, by simp⟩

def LineEnd.commentText (e : LineEnd) : List Char :=
  match e.comment with
  | none => []
  | some cs => '#' :: cs

def LineEnd.breakText (e : LineEnd) : List Char := if e.carriageReturn then ['\r', '\n'] else ['\n']

def LineEnd.text (e : LineEnd) : List Char := e.spaces.text ++ (e.commentText ++ e.breakText)

theorem Spaces.skipSpace_append (s : Spaces) {c : Char} (hc : isSpace c = false) (cs : List Char) :
    skipSpace (s.text ++ c :: cs) = c :: cs := by
  unfold skipSpace
  rw [List.dropWhile_append_of_pos s.blank, List.dropWhile_cons_of_neg (by simp [hc])]

theorem Spaces.stops (s : Spaces) (h : Stops rest) : Stops (s.text ++ rest) := by
  intro c hc
  rcases hs : s.text with _ | ⟨d, ds⟩
  · rw [hs, List.nil_append] at hc
    exact h c hc
  · rw [hs] at hc
    cases hc
    have hspace := s.blank c (by simp [hs])
    simp only [isSpace, Bool.or_eq_true, beq_iff_eq] at hspace
    rcases hspace with rfl | rfl <;> decide

theorem LineEnd.exists_cons (e : LineEnd) (rest : List Char) : ∃ c cs,
    e.commentText ++ e.breakText ++ rest = c :: cs ∧ isSpace c = false ∧ c ∈ valueEnds := by
  unfold LineEnd.commentText LineEnd.breakText
  cases e.comment with
  | some cs => exact ⟨'#', _, rfl, by decide, by decide⟩
  | none =>
    cases e.carriageReturn with
    | true => exact ⟨'\r', _, rfl, by decide, by decide⟩
    | false => exact ⟨'\n', _, rfl, by decide, by decide⟩

/-- A value is read up to the end of its line. -/
theorem LineEnd.stops (e : LineEnd) (rest : List Char) : Stops (e.text ++ rest) := by
  obtain ⟨c, cs, heq, -, hc⟩ := e.exists_cons rest
  unfold LineEnd.text
  rw [List.append_assoc, heq]
  exact e.spaces.stops (stops_cons hc cs)

theorem LineEnd.skipComment_append (e : LineEnd) (rest : List Char) :
    skipComment (e.commentText ++ e.breakText ++ rest) = e.breakText ++ rest := by
  obtain ⟨spaces, comment, carriageReturn, hreadable⟩ := e
  unfold LineEnd.commentText LineEnd.breakText
  cases comment with
  | none => cases carriageReturn <;> rfl
  | some cs =>
    have hall := hreadable cs rfl
    dsimp only
    rw [List.cons_append, List.cons_append, List.append_assoc, skipComment,
      List.dropWhile_append_of_pos hall]
    cases carriageReturn <;> rfl

theorem LineEnd.lineEnd?_append (e : LineEnd) (rest : List Char) :
    lineEnd? (e.text ++ rest) = some rest := by
  obtain ⟨c, cs, heq, hc, -⟩ := e.exists_cons rest
  have hskip : skipSpace (e.text ++ rest) = e.commentText ++ e.breakText ++ rest := by
    unfold LineEnd.text
    rw [List.append_assoc, heq, e.spaces.skipSpace_append hc]
  unfold lineEnd?
  rw [hskip, e.skipComment_append]
  unfold LineEnd.breakText
  cases e.carriageReturn <;> rfl

theorem LineEnd.lineEnd?_spaced (e : LineEnd) (after : Spaces) (rest : List Char) :
    lineEnd? (after.text ++ (e.text ++ rest)) = some rest := by
  have hend := LineEnd.lineEnd?_append { e with spaces := after.append e.spaces } rest
  unfold LineEnd.text LineEnd.commentText LineEnd.breakText Spaces.append at hend
  unfold LineEnd.text LineEnd.commentText LineEnd.breakText
  simpa only [List.append_assoc] using hend

theorem LineEnd.length_pos (e : LineEnd) : 0 < e.text.length := by
  unfold LineEnd.text LineEnd.breakText
  cases e.carriageReturn <;> simp

theorem statements?_lineEnd (e : LineEnd) (rest : List Char) :
    statements? (e.text ++ rest) = statements? rest := by
  have hlen : rest.length < (e.text ++ rest).length := by
    rw [List.length_append]
    have hpos := e.length_pos
    omega
  rw [statements?, e.lineEnd?_append]
  cases rest with
  | nil => exact statements?_nil.symm
  | cons c cs =>
    dsimp only
    rw [if_pos hlen]

/-- Lines without a statement. -/
theorem statements?_lineEnds (es : List LineEnd) (rest : List Char) :
    statements? (es.flatMap LineEnd.text ++ rest) = statements? rest := by
  induction es with
  | nil => rfl
  | cons e es ih => rw [List.flatMap_cons, List.append_assoc, statements?_lineEnd, ih]

/-- A statement with spaces in front of it and the end of its line behind it. -/
theorem statements?_line {s : Statement} {c : Char} {cs : List Char} (indent : Spaces)
    (h : Opens c) (hs : statement? (c :: cs) = some (s, rest))
    (hlen : rest.length < (c :: cs).length) :
    statements? (indent.text ++ c :: cs) = (statements? rest).map (s :: ·) := by
  have hskip := indent.skipSpace_append h.not_space cs
  have hnone : lineEnd? (indent.text ++ c :: cs) = none := by
    have hopens := lineEnd?_of_opens h cs
    unfold lineEnd? at hopens ⊢
    rwa [hskip, ← skipSpace_cons h.not_space cs]
  have hlen' : rest.length < (indent.text ++ c :: cs).length := by
    rw [List.length_append]
    omega
  rw [statements?, hnone, hskip]
  dsimp only
  rw [hs]
  simp only [Option.bind_eq_bind, Option.bind_some, if_pos hlen']
  cases statements? rest <;> rfl

/-! ## Names and entries -/

theorem segment?_eq_none {c : Char} (hd : c ≠ '"') (hs : c ≠ '\'') (hbare : isBareKeyChar c = false)
    (cs : List Char) : segment? (c :: cs) = none := by
  unfold segment?
  rw [readLine?_of_ne hd hs, List.takeWhile_cons_of_neg (by simp [hbare])]

/-- A name begins as a statement may begin, and neither as a header nor as the end of a table. -/
theorem Name.exists_cons (n : Name) :
    ∃ c cs, n.text = c :: cs ∧ Opens c ∧ c ≠ '[' ∧ c ≠ '\x7d' := by
  obtain ⟨text, name, hreads⟩ := n
  dsimp only
  cases text with
  | nil => cases hreads
  | cons c cs =>
    refine ⟨c, cs, rfl, ?_⟩
    by_cases hd : c = '"'
    · subst hd
      exact ⟨⟨by decide, by decide, by decide, by decide⟩, by decide, by decide⟩
    by_cases hs : c = '\''
    · subst hs
      exact ⟨⟨by decide, by decide, by decide, by decide⟩, by decide, by decide⟩
    have hbare : isBareKeyChar c = true := by
      by_contra hno
      rw [segment?_eq_none hd hs (by simpa using hno)] at hreads
      cases hreads
    exact ⟨opens_of_bare hbare, ne_of_bare hbare rfl, ne_of_bare hbare rfl⟩

/-- A spelling begins with no space. -/
theorem Spelling.exists_cons (v : Spelling) : ∃ c cs, v.text = c :: cs ∧ isSpace c = false := by
  obtain ⟨text, s, hreads, -⟩ := v
  dsimp only
  cases text with
  | nil => cases hreads
  | cons c cs =>
    refine ⟨c, cs, rfl, ?_⟩
    have hnone : ∀ d, d ∉ ['[', '\x7b', 't', 'f'] → d ≠ '"' → d ≠ '\'' → d.isDigit = false →
        d ∉ ['-', '+', 'i', 'n'] → c ≠ d := by
      rintro d hother hd hs hdigit hsign rfl
      rw [value?_scalar hother, readText?_of_ne hd hs, readNumeral_of_ne hdigit hsign] at hreads
      cases hreads
    have hblank := hnone ' ' (by decide) (by decide) (by decide) (by decide) (by decide)
    have htab := hnone '\t' (by decide) (by decide) (by decide) (by decide) (by decide)
    simp [isSpace, hblank, htab]

/-- The characters that may stand behind a name and the spaces around it. -/
def nameEnds : List Char := ['.', '=', ']']

/-- A name and the spaces behind it, up to a mark. -/
theorem segment?_spaced (n : Name) (after : Spaces) {c : Char} (hc : c ∈ nameEnds)
    (cs : List Char) : segment? (n.text ++ (after.text ++ c :: cs)) =
      some (n.name, after.text ++ c :: cs) := by
  rcases hafter : after.text with _ | ⟨d, ds⟩
  · refine n.reads_before ?_ cs
    revert c
    simp [nameEnds, isBareKeyChar]
  · have hspace := after.blank d (by simp [hafter])
    refine n.reads_before ?_ (ds ++ c :: cs)
    simp only [isSpace, Bool.or_eq_true, beq_iff_eq] at hspace
    rcases hspace with rfl | rfl <;> decide

theorem skipSpace_name (before : Spaces) (n : Name) (cs : List Char) :
    skipSpace (before.text ++ (n.text ++ cs)) = n.text ++ cs := by
  obtain ⟨c, ds, heq, hopens, -⟩ := n.exists_cons
  rw [heq, List.cons_append, before.skipSpace_append hopens.not_space]

theorem segments?_last (room : Nat) (before after : Spaces) (n : Name) {c : Char}
    (hc : c ∈ nameEnds) (hdot : c ≠ '.') (cs : List Char) :
    segments? (room + 1) (before.text ++ (n.text ++ (after.text ++ c :: cs))) =
      some ([n.name], c :: cs) := by
  have hspace : isSpace c = false := by
    revert c
    simp [nameEnds, isSpace]
  rw [segments?, skipSpace_name]
  refine Option.bind_eq_some_iff.2 ⟨_, segment?_spaced n after hc cs, ?_⟩
  dsimp only
  rw [after.skipSpace_append hspace]
  split
  · rename_i heq
    exact absurd (List.cons.inj heq).1 hdot
  · rfl

theorem segments?_dot (room : Nat) (before after : Spaces) (n : Name) (cs : List Char) :
    segments? (room + 1) (before.text ++ (n.text ++ (after.text ++ '.' :: cs))) =
      (segments? room cs).map fun (more, left) => (n.name :: more, left) := by
  rw [segments?, skipSpace_name, segment?_spaced n after (by decide), Option.bind_eq_bind,
    Option.bind_some]
  dsimp only
  rw [after.skipSpace_append (by decide)]
  split
  · rename_i heq
    obtain rfl := (List.cons.inj heq).2
    cases segments? room cs <;> rfl
  · rename_i hno
    exact absurd rfl (hno cs)

/-- A key with one name. -/
theorem key?_name (before after : Spaces) (n : Name) {c : Char} (hc : c ∈ nameEnds) (hdot : c ≠ '.')
    (cs : List Char) : key? (before.text ++ (n.text ++ (after.text ++ c :: cs))) =
      some (⟨[], n.name⟩, c :: cs) := by
  unfold key? maxDepth
  rw [segments?_last 78 before after n hc hdot]
  rfl

/-- A key with two names. -/
theorem key?_dotted (before after before' after' : Spaces) (n n' : Name) {c : Char}
    (hc : c ∈ nameEnds) (hdot : c ≠ '.') (cs : List Char) :
    key? (before.text ++ (n.text ++ (after.text ++ '.' ::
      (before'.text ++ (n'.text ++ (after'.text ++ c :: cs)))))) =
        some (⟨[n.name], n'.name⟩, c :: cs) := by
  unfold key? maxDepth
  rw [segments?_dot 78, segments?_last 77 before' after' n' hc hdot]
  rfl

/-- An assignment of a scalar to a key, with the spaces around its parts. -/
structure Entry where
  before : Spaces
  key : Name
  beforeSign : Spaces
  afterSign : Spaces
  value : Spelling
  after : Spaces

namespace Entry

/-- The entry from its equals sign on. -/
def valueText (e : Entry) : List Char :=
  '=' :: (e.afterSign.text ++ (e.value.text ++ e.after.text))

/-- The entry without the spaces in front. -/
def body (e : Entry) : List Char := e.key.text ++ (e.beforeSign.text ++ e.valueText)

def text (e : Entry) : List Char := e.before.text ++ e.body

/-- An entry without spaces. -/
def bare (key : Name) (value : Spelling) : Entry := ⟨.none, key, .none, .none, value, .none⟩

/-- What the entry assigns. -/
def assigned (e : Entry) : String × Scalar := (e.key.name, e.value.scalar)

end Entry

theorem pair?_of_key {room : Nat} {path : KeyPath} {cs : List Char} (e : Entry) (h : Stops rest)
    (hkey : key? cs = some (path, e.valueText ++ rest)) :
    pair? (value? room) cs = some ((path, .leaf e.value.scalar), e.after.text ++ rest) := by
  obtain ⟨c, ds, hvalue, hc⟩ := e.value.exists_cons
  have hskip : skipSpace (e.afterSign.text ++ (e.value.text ++ e.after.text) ++ rest) =
      e.value.text ++ (e.after.text ++ rest) := by
    rw [List.append_assoc, List.append_assoc, hvalue, List.cons_append,
      e.afterSign.skipSpace_append hc]
  refine Option.bind_eq_some_iff.2 ⟨_, hkey, ?_⟩
  refine Option.bind_eq_some_iff.2
    ⟨e.afterSign.text ++ (e.value.text ++ e.after.text) ++ rest, rfl, ?_⟩
  rw [hskip, e.value.reads_before room (e.after.stops h)]
  rfl

theorem pair?_entry (room : Nat) (before : Spaces) (e : Entry) (h : Stops rest) :
    pair? (value? room) (before.text ++ (e.body ++ rest)) =
      some ((⟨[], e.key.name⟩, .leaf e.value.scalar), e.after.text ++ rest) := by
  refine pair?_of_key e h ?_
  have hkey := key?_name before e.beforeSign e.key (c := '=') (by decide) (by decide)
    (e.afterSign.text ++ (e.value.text ++ e.after.text) ++ rest)
  unfold Entry.body Entry.valueText
  simpa only [List.append_assoc, List.cons_append] using hkey

/-! ## Inline tables -/

/-- The further entries of an inline table, each behind a comma, and its closing brace. -/
def closingText : List Entry → List Char
  | [] => ['\x7d']
  | e :: es => ',' :: (e.text ++ closingText es)

/-- An inline table from behind its opening brace. -/
def inlineText (inner : Spaces) : List Entry → List Char
  | [] => inner.text ++ ['\x7d']
  | e :: es => inner.text ++ (e.text ++ closingText es)

/-- What an entry assigns, as a pair of an inline table. -/
def Entry.pair (e : Entry) : KeyPath × Node := (⟨[], e.key.name⟩, .leaf e.value.scalar)

theorem stops_closingText (es : List Entry) (rest : List Char) :
    Stops (closingText es ++ rest) := by
  cases es with
  | nil => exact stops_cons (by decide) _
  | cons e es => exact stops_cons (by decide) _

theorem pairs_entries (room : Nat) (before : Spaces) (e : Entry) (es : List Entry)
    (rest : List Char) :
    pairs (value? room) (before.text ++ (e.body ++ (closingText es ++ rest))) =
      some ((e :: es).map Entry.pair, rest) := by
  induction es generalizing before e with
  | nil =>
    rw [pairs, pair?_entry room before e (stops_closingText [] rest), Option.bind_eq_bind,
      Option.bind_some]
    dsimp only
    unfold closingText
    rw [List.singleton_append, e.after.skipSpace_append (by decide)]
    rfl
  | cons e' es ih =>
    have hnext := ih e'.before e'
    have htext : closingText (e' :: es) ++ rest =
        ',' :: (e'.before.text ++ (e'.body ++ (closingText es ++ rest))) := by
      simp [closingText, Entry.text]
    have hlen : (e'.before.text ++ (e'.body ++ (closingText es ++ rest))).length <
        (before.text ++ (e.body ++ (closingText (e' :: es) ++ rest))).length := by
      rw [htext]
      simp only [List.length_append, List.length_cons]
      omega
    rw [pairs, pair?_entry room before e (stops_closingText (e' :: es) rest), Option.bind_eq_bind,
      Option.bind_some]
    dsimp only
    rw [htext] at hlen
    rw [htext, e.after.skipSpace_append (by decide)]
    refine (if_pos hlen).trans ?_
    rw [hnext]
    rfl

theorem foldlM_pairs (es : List Entry) (cs : Children)
    (h : (cs.map (·.1) ++ es.map fun e => e.key.name).Nodup) :
    (es.map Entry.pair).foldlM (fun cs (path, n) => Children.assign path.last n path.outer cs) cs =
      some (cs ++ leaves (es.map Entry.assigned)) := by
  induction es generalizing cs with
  | nil => simp [leaves]
  | cons e es ih =>
    have hnone : cs.lookup e.key.name = none := Children.lookup_eq_none h
    have hnext : ((cs ++ [(e.key.name, Node.leaf e.value.scalar)]).map (·.1) ++
        es.map fun e => e.key.name).Nodup := by
      simpa using h
    rw [List.map_cons, List.foldlM_cons]
    dsimp only [Entry.pair]
    rw [Children.assign, hnone]
    dsimp only
    rw [Children.put_new _ hnone]
    refine (ih _ hnext).trans ?_
    simp [leaves, Entry.assigned]

/-- Pairs with different keys make a table with these keys. -/
theorem ofPairs?_entries {es : List Entry} (h : (es.map fun e => e.key.name).Nodup) :
    Node.ofPairs? (es.map Entry.pair) = some (.inline (leaves (es.map Entry.assigned))) := by
  unfold Node.ofPairs?
  rw [foldlM_pairs es [] (by simpa using h)]
  rfl

theorem inline?_entries (room : Nat) (inner : Spaces) {es : List Entry}
    (h : (es.map fun e => e.key.name).Nodup) (rest : List Char) :
    inline? (value? room) (inlineText inner es ++ rest) =
      some (.inline (leaves (es.map Entry.assigned)), rest) := by
  cases es with
  | nil =>
    unfold inline? inlineText
    rw [List.append_assoc, List.singleton_append, inner.skipSpace_append (by decide)]
    rfl
  | cons e es =>
    have hskip : skipSpace (inlineText inner (e :: es) ++ rest) =
        e.body ++ (closingText es ++ rest) := by
      have hname := skipSpace_name (inner.append e.before) e.key
        (e.beforeSign.text ++ e.valueText ++ (closingText es ++ rest))
      unfold inlineText Entry.text Entry.body
      simpa only [Spaces.append, List.append_assoc] using hname
    have hbrace : ∀ left, e.body ++ (closingText es ++ rest) ≠ '\x7d' :: left := by
      intro left heq
      obtain ⟨c, cs, hkey, -, -, hc⟩ := e.key.exists_cons
      unfold Entry.body at heq
      rw [hkey] at heq
      exact hc (List.cons.inj heq).1
    have hpairs := pairs_entries room .none e es rest
    unfold inline?
    rw [hskip]
    split
    · rename_i heq
      exact absurd heq (hbrace _)
    · refine Option.bind_eq_some_iff.2 ⟨_, hpairs, ?_⟩
      dsimp only
      rw [ofPairs?_entries h]
      rfl

/-! ## Statements -/

/-- The end of the line of a statement, and the lines without one behind it. -/
structure Ending where
  line : LineEnd
  empty : List LineEnd

/-- A line feed alone. -/
def Ending.feed : Ending := ⟨.feed, []⟩

def Ending.text (e : Ending) : List Char := e.line.text ++ e.empty.flatMap LineEnd.text

theorem Ending.text_append (e : Ending) (rest : List Char) :
    e.text ++ rest = e.line.text ++ (e.empty.flatMap LineEnd.text ++ rest) := by
  unfold Ending.text
  rw [List.append_assoc]

theorem Ending.length_lt (e : Ending) (rest : List Char) :
    (e.empty.flatMap LineEnd.text ++ rest).length < (e.text ++ rest).length := by
  have hpos := e.line.length_pos
  rw [e.text_append]
  simp only [List.length_append]
  omega

theorem Ending.stops (e : Ending) (rest : List Char) : Stops (e.text ++ rest) := by
  rw [e.text_append]
  exact e.line.stops _

/-- An assignment that is read up to its ending. -/
theorem statements?_of_pair {path : KeyPath} {n : Node} {tail : List Char} (indent : Spaces)
    (first : Name) (after : Spaces) (e : Ending)
    (hpair : pair? (value? maxDepth) (first.text ++ (tail ++ (e.text ++ rest))) =
      some ((path, n), after.text ++ (e.text ++ rest))) :
    statements? (indent.text ++ (first.text ++ (tail ++ (e.text ++ rest)))) =
      (statements? rest).map (.assign path n :: ·) := by
  obtain ⟨c, cs, hfirst, hopens, hc, -⟩ := first.exists_cons
  rw [hfirst, List.cons_append] at hpair ⊢
  have hlen : (e.empty.flatMap LineEnd.text ++ rest).length <
      (c :: (cs ++ (tail ++ (e.text ++ rest)))).length := by
    have hlt := e.length_lt rest
    simp only [List.length_cons, List.length_append] at hlt ⊢
    omega
  have hstatement : statement? (c :: (cs ++ (tail ++ (e.text ++ rest)))) =
      some (.assign path n, e.empty.flatMap LineEnd.text ++ rest) := by
    unfold statement?
    split
    · rename_i heq
      exact absurd (List.cons.inj heq).1 hc
    · rw [hpair, e.text_append]
      refine Option.bind_eq_some_iff.2 ⟨(.assign path n, _), rfl, ?_⟩
      exact Option.bind_eq_some_iff.2 ⟨_, e.line.lineEnd?_spaced after _, rfl⟩
  rw [statements?_line indent hopens hstatement hlen, statements?_lineEnds]

/-- The name of a section and the spaces around it. -/
structure Heading where
  before : Spaces
  name : Name
  after : Spaces

def Heading.bare (n : Name) : Heading := ⟨.none, n, .none⟩

/-- A header with one name. -/
theorem header?_name (head : Heading) (rest : List Char) :
    header? ('[' :: (head.before.text ++ (head.name.text ++ (head.after.text ++ ']' :: rest)))) =
      some (.header ⟨[], head.name.name⟩, rest) := by
  have hkey := key?_name head.before head.after head.name (c := ']') (by decide) (by decide) rest
  generalize hcs : head.before.text ++ (head.name.text ++ (head.after.text ++ ']' :: rest)) = cs
    at hkey ⊢
  -- Two brackets would open an element of an array.
  have hbracket : ∀ left, cs ≠ '[' :: left := by
    rintro left rfl
    obtain ⟨c, ds, hname, -, hc, -⟩ := head.name.exists_cons
    rcases hbefore : head.before.text with _ | ⟨d, before⟩
    · rw [hbefore, hname] at hcs
      exact hc (List.cons.inj hcs).1
    · have hspace := head.before.blank d (by simp [hbefore])
      rw [hbefore] at hcs
      rw [(List.cons.inj hcs).1] at hspace
      cases hspace
  unfold header?
  split
  · rename_i heq
    exact absurd (List.cons.inj heq).2 (hbracket _)
  · rename_i heq
    obtain ⟨-, rfl⟩ := List.cons.inj heq
    rw [hkey]
    rfl
  · rename_i hno
    exact absurd rfl (hno cs)

theorem statements?_header_line (indent : Spaces) (head : Heading) (e : Ending) (rest : List Char) :
    statements? (indent.text ++ '[' :: (head.before.text ++ (head.name.text ++ (head.after.text ++
        ']' :: (e.text ++ rest))))) =
      (statements? rest).map (.header ⟨[], head.name.name⟩ :: ·) := by
  have hheader := header?_name head (e.text ++ rest)
  have hlen : (e.empty.flatMap LineEnd.text ++ rest).length < ('[' :: (head.before.text ++
      (head.name.text ++ (head.after.text ++ ']' :: (e.text ++ rest))))).length := by
    have hlt := e.length_lt rest
    simp only [List.length_cons, List.length_append] at hlt ⊢
    omega
  have hstatement : statement? ('[' :: (head.before.text ++ (head.name.text ++ (head.after.text ++
      ']' :: (e.text ++ rest))))) =
        some (.header ⟨[], head.name.name⟩, e.empty.flatMap LineEnd.text ++ rest) := by
    unfold statement?
    dsimp only
    rw [hheader, e.text_append]
    refine Option.bind_eq_some_iff.2 ⟨(.header ⟨[], head.name.name⟩, _), rfl, ?_⟩
    exact Option.bind_eq_some_iff.2 ⟨_, e.line.lineEnd?_append _, rfl⟩
  rw [statements?_line indent ⟨by decide, by decide, by decide, by decide⟩ hstatement hlen,
    statements?_lineEnds]

theorem statements?_entry_line (e : Entry) (ending : Ending) (rest : List Char) :
    statements? (e.text ++ (ending.text ++ rest)) =
      (statements? rest).map (.assign ⟨[], e.key.name⟩ (.leaf e.value.scalar) :: ·) := by
  have hpair := pair?_entry maxDepth .none e (ending.stops rest)
  unfold Entry.body at hpair
  rw [List.append_assoc] at hpair
  unfold Entry.text Entry.body
  rw [List.append_assoc, List.append_assoc]
  exact statements?_of_pair e.before e.key e.after ending hpair

theorem statements?_dotted_line (head : Heading) (e : Entry) (ending : Ending) (rest : List Char) :
    statements? (head.before.text ++ (head.name.text ++ ((head.after.text ++ '.' :: e.text) ++
        (ending.text ++ rest)))) =
      (statements? rest).map
        (.assign ⟨[head.name.name], e.key.name⟩ (.leaf e.value.scalar) :: ·) := by
  refine statements?_of_pair head.before head.name e.after ending ?_
  refine pair?_of_key e (ending.stops rest) ?_
  have hkey := key?_dotted .none head.after e.before e.beforeSign head.name e.key (c := '=')
    (by decide) (by decide)
    (e.afterSign.text ++ (e.value.text ++ e.after.text) ++ (ending.text ++ rest))
  unfold Entry.text Entry.body Entry.valueText
  simpa only [Spaces.none, List.nil_append, List.append_assoc, List.cons_append] using hkey

theorem statements?_inline_line (head : Heading) (gap inner : Spaces) {es : List Entry}
    (h : (es.map fun e => e.key.name).Nodup) (ending : Ending) (rest : List Char) :
    statements? (head.before.text ++ (head.name.text ++
        ((head.after.text ++ '=' :: (gap.text ++ '\x7b' :: inlineText inner es)) ++
          (ending.text ++ rest)))) =
      (statements? rest).map
        (.assign ⟨[], head.name.name⟩ (.inline (leaves (es.map Entry.assigned))) :: ·) := by
  refine statements?_of_pair head.before head.name .none ending ?_
  have hkey := key?_name .none head.after head.name (c := '=') (by decide) (by decide)
    (gap.text ++ '\x7b' :: (inlineText inner es ++ (ending.text ++ rest)))
  have htext : head.after.text ++ '=' :: (gap.text ++ '\x7b' :: inlineText inner es) ++
      (ending.text ++ rest) = head.after.text ++ '=' ::
        (gap.text ++ '\x7b' :: (inlineText inner es ++ (ending.text ++ rest))) := by
    simp only [List.append_assoc, List.cons_append]
  rw [htext]
  refine Option.bind_eq_some_iff.2 ⟨_, hkey, ?_⟩
  refine Option.bind_eq_some_iff.2
    ⟨gap.text ++ '\x7b' :: (inlineText inner es ++ (ending.text ++ rest)), rfl, ?_⟩
  refine Option.bind_eq_some_iff.2
    ⟨(.inline (leaves (es.map Entry.assigned)), ending.text ++ rest), ?_, rfl⟩
  rw [gap.skipSpace_append (by decide)]
  unfold maxDepth
  rw [value?, inline?_entries 78 inner h]

/-! ## Documents -/

/-- A statement in front of the first header: a key of a section under its dotted name, or a whole
section as an inline table. -/
inductive TopLine
  | dotted (head : Heading) (entry : Entry) (ending : Ending)
  | inline (head : Heading) (gap inner : Spaces) (entries : List Entry) (ending : Ending)

def TopLine.text : TopLine → List Char
  | .dotted head entry ending =>
    head.before.text ++ (head.name.text ++ ((head.after.text ++ '.' :: entry.text) ++ ending.text))
  | .inline head gap inner entries ending =>
    head.before.text ++ (head.name.text ++
      ((head.after.text ++ '=' :: (gap.text ++ '\x7b' :: inlineText inner entries)) ++ ending.text))

def TopLine.part : TopLine → Part
  | .dotted head entry _ => .dotted head.name.name entry.assigned
  | .inline head _ _ entries _ => .inline head.name.name (entries.map Entry.assigned)

/-- A section under its header, with a line for each of its keys. -/
structure Block where
  indent : Spaces
  head : Heading
  ending : Ending
  lines : List (Entry × Ending)

def Block.text (b : Block) : List Char :=
  b.indent.text ++ '[' :: (b.head.before.text ++ (b.head.name.text ++ (b.head.after.text ++
    ']' :: (b.ending.text ++ b.lines.flatMap fun (entry, ending) => entry.text ++ ending.text))))

def Block.part (b : Block) : Part :=
  .block b.head.name.name (b.lines.map fun (entry, _) => entry.assigned)

/-- A document of sections: lines without a statement, dotted and inline sections, and then those
with headers. -/
structure Layout where
  opening : List LineEnd
  top : List TopLine
  blocks : List Block

namespace Layout

def chars (l : Layout) : List Char :=
  l.opening.flatMap LineEnd.text ++ (l.top.flatMap TopLine.text ++ l.blocks.flatMap Block.text)

def text (l : Layout) : String := String.ofList l.chars

def parts (l : Layout) : List Part := l.top.map TopLine.part ++ l.blocks.map Block.part

end Layout

theorem map_assigned_fst (es : List Entry) :
    (es.map Entry.assigned).map (·.1) = es.map fun e => e.key.name := by
  simp [Entry.assigned, Function.comp_def]

theorem statements?_topLine {l : TopLine} (h : (l.part.entries.map (·.1)).Nodup)
    (rest : List Char) : statements? (l.text ++ rest) =
      (statements? rest).map (l.part.statements ++ ·) := by
  cases l with
  | dotted head entry ending =>
    have htext : (TopLine.dotted head entry ending).text ++ rest = head.before.text ++
        (head.name.text ++ ((head.after.text ++ '.' :: entry.text) ++ (ending.text ++ rest))) := by
      simp only [TopLine.text, List.append_assoc]
    rw [htext]
    exact statements?_dotted_line head entry ending rest
  | inline head gap inner entries ending =>
    have htext : (TopLine.inline head gap inner entries ending).text ++ rest = head.before.text ++
        (head.name.text ++ ((head.after.text ++ '=' ::
          (gap.text ++ '\x7b' :: inlineText inner entries)) ++ (ending.text ++ rest))) := by
      simp only [TopLine.text, List.append_assoc]
    have hkeys : (entries.map fun e => e.key.name).Nodup := by
      rw [← map_assigned_fst]
      exact h
    rw [htext]
    exact statements?_inline_line head gap inner hkeys ending rest

theorem statements?_topLines {ls : List TopLine}
    (h : ∀ l ∈ ls, (l.part.entries.map (·.1)).Nodup) (rest : List Char) :
    statements? (ls.flatMap TopLine.text ++ rest) =
      (statements? rest).map ((ls.map TopLine.part).flatMap Part.statements ++ ·) := by
  induction ls with
  | nil => simp
  | cons l ls ih =>
    rw [List.flatMap_cons, List.append_assoc, statements?_topLine (h l List.mem_cons_self),
      ih fun l hl => h l (List.mem_cons_of_mem _ hl), Option.map_map]
    simp only [List.map_cons, List.flatMap_cons, List.append_assoc, Function.comp_def]

theorem statements?_entry_lines (lines : List (Entry × Ending)) (rest : List Char) :
    statements? (lines.flatMap (fun (entry, ending) => entry.text ++ ending.text) ++ rest) =
      (statements? rest).map ((lines.map fun (entry, _) =>
        .assign ⟨[], entry.key.name⟩ (.leaf entry.value.scalar)) ++ ·) := by
  induction lines with
  | nil => simp
  | cons line lines ih =>
    obtain ⟨entry, ending⟩ := line
    rw [List.flatMap_cons, List.append_assoc, List.append_assoc, statements?_entry_line, ih,
      Option.map_map]
    rfl

theorem statements?_block (b : Block) (rest : List Char) : statements? (b.text ++ rest) =
    (statements? rest).map (b.part.statements ++ ·) := by
  have htext : b.text ++ rest = b.indent.text ++ '[' :: (b.head.before.text ++
      (b.head.name.text ++ (b.head.after.text ++ ']' :: (b.ending.text ++
        (b.lines.flatMap (fun (entry, ending) => entry.text ++ ending.text) ++ rest))))) := by
    simp only [Block.text, List.append_assoc, List.cons_append]
  rw [htext, statements?_header_line, statements?_entry_lines, Option.map_map]
  simp only [Block.part, Part.statements, List.map_map, List.cons_append]
  rfl

theorem statements?_blocks (bs : List Block) : statements? (bs.flatMap Block.text) =
    some ((bs.map Block.part).flatMap Part.statements) := by
  induction bs with
  | nil => exact statements?_nil
  | cons b bs ih =>
    rw [List.flatMap_cons, statements?_block, ih]
    rfl

/-- What stands in front of the first header is no section under a header. -/
theorem inOrder_parts (l : Layout) : InOrder l.parts := by
  refine List.pairwise_append.2 ⟨?_, ?_, ?_⟩
  · refine List.pairwise_map.2 (List.pairwise_of_forall fun p q hp => ?_)
    cases p <;> cases hp
  · exact List.pairwise_map.2 (List.pairwise_of_forall fun p q _ => rfl)
  · intro p hp q hq _
    obtain ⟨b, -, rfl⟩ := List.mem_map.1 hq
    rfl

/-- A document is read as the statements of its parts. -/
theorem statements?_layout {l : Layout} (h : Compatible l.parts) :
    statements? l.chars = some (l.parts.flatMap Part.statements) := by
  have htop : ∀ line ∈ l.top, (line.part.entries.map (·.1)).Nodup := fun line hline =>
    h.keys_nodup (List.mem_append_left _ (List.mem_map_of_mem hline))
  unfold Layout.chars Layout.parts
  rw [statements?_lineEnds, statements?_topLines htop, statements?_blocks, List.flatMap_append]
  rfl

theorem statements?_byteOrderMark (cs : List Char) : statements? ('\ufeff' :: cs) = none := by
  have hopens : Opens '\ufeff' := ⟨by decide, by decide, by decide, by decide⟩
  have hkey : key? ('\ufeff' :: cs) = none := by
    unfold key? maxDepth
    rw [segments?, skipSpace_cons hopens.not_space,
      segment?_eq_none (by decide) (by decide) (by decide)]
    rfl
  rw [statements?, lineEnd?_of_opens hopens, skipSpace_cons hopens.not_space]
  unfold statement? pair?
  rw [hkey]
  rfl

/-- No document begins with a byte order mark. -/
theorem dropByteOrderMark_layout {l : Layout} (h : Compatible l.parts) :
    dropByteOrderMark l.chars = l.chars := by
  have hread := statements?_layout h
  unfold dropByteOrderMark
  split
  · rename_i cs heq
    rw [heq, statements?_byteOrderMark] at hread
    cases hread
  · rfl

theorem readTable_layout {l : Layout} (h : Compatible l.parts) :
    readTable l.text = tableOf (l.parts.flatMap Part.statements) := by
  unfold readTable Layout.text
  rw [String.toList_ofList, dropByteOrderMark_layout h, statements?_layout h]
  rfl

end NodeSettings.Toml
