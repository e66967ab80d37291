import Mathlib.Data.List.Basic

/-!
# Html — pages written with escaped values

A page is markup with values put into it, each of them escaped the way
`html.escape` does. `run` reads a page one character after the other:
text, character references, tags and their attributes, quoted or not.
Comments, and the names of references that no page here uses, are left out.

`tokens_render` says what a reader finds in a page: the tokens of the
markup, with every value in its place as it is. No value opens a tag or
closes an attribute.
-/

namespace Html

/-! ## Escaping -/

def escapeChar (c : Char) : List Char :=
  if c = '&' then "&amp;".toList
  else if c = '<' then "&lt;".toList
  else if c = '>' then "&gt;".toList
  else if c = '"' then "&quot;".toList
  else if c = '\'' then "&#x27;".toList
  else [c]

/-- `html.escape(text, quote=True)` -/
def escape (text : List Char) : List Char := text.flatMap escapeChar

/-! ## Line ends -/

/-- The line ends of a page as they are read: `\n` for `\r\n` and for `\r`. The flag
says that the text before ends with `\r`. -/
def lines : Bool → List Char → List Char
  | _, [] => []
  | afterReturn, c :: rest =>
      if c = '\n' ∧ afterReturn then lines false rest
      else (if c = '\r' then '\n' else c) :: lines (c = '\r') rest

/-! ## Character references -/

/-- The references with a name. -/
def named : List (String × Char) :=
  [("amp", '&'), ("lt", '<'), ("gt", '>'), ("quot", '"'), ("apos", '\''), ("nbsp", '\u00a0')]

def digitValue (c : Char) : Nat :=
  if '0' ≤ c ∧ c ≤ '9' then c.toNat - 48
  else if 'a' ≤ c ∧ c ≤ 'f' then c.toNat - 87
  else if 'A' ≤ c ∧ c ≤ 'F' then c.toNat - 55
  else 16

/-- The number of digits that are not empty. -/
def number? (base : Nat) (digits : List Char) : Option Nat :=
  if digits ≠ [] ∧ digits.all fun c => digitValue c < base then
    some (digits.foldl (fun n c => n * base + digitValue c) 0)
  else none

/-- The character of a code point; U+FFFD when there is none. -/
def codePoint (n : Nat) : Char :=
  if n = 0 ∨ ¬n.isValidChar then '\uFFFD' else Char.ofNat n

/-- The character of the reference between `&` and `;`. -/
def reference? (name : List Char) : Option Char :=
  match name with
  | '#' :: 'x' :: digits => (number? 16 digits).map codePoint
  | '#' :: 'X' :: digits => (number? 16 digits).map codePoint
  | '#' :: digits => (number? 10 digits).map codePoint
  | name => (named.find? fun r => r.1.toList = name).map (·.2)

/-! ## Tokens -/

structure Tag where
  closing : Bool := false
  name : List Char := []
  attributes : List (List Char × List Char) := []
  deriving DecidableEq

/-- The first attribute of a name counts. -/
def Tag.put (t : Tag) (name value : List Char) : Tag :=
  if t.attributes.any fun a => a.1 = name then t
  else { t with attributes := t.attributes ++ [(name, value)] }

def Tag.attribute (t : Tag) (name : List Char) : Option (List Char) :=
  (t.attributes.find? fun a => a.1 = name).map (·.2)

inductive Token where
  | character (c : Char)
  | tag (t : Tag)
  | declaration (text : List Char)
  deriving DecidableEq

/-- Where a text goes: the content of the page, or the value of an attribute, up to its
mark or to a blank. -/
inductive Place where
  | content
  | value (mark : Option Char) (t : Tag) (name text : List Char)
  deriving DecidableEq

inductive Mode where
  | text (p : Place)
  | reference (p : Place) (name : List Char)
  | tagOpen
  | declaration (text : List Char)
  | tagName (t : Tag)
  | beforeAttribute (t : Tag)
  | attributeName (t : Tag) (name : List Char)
  | afterName (t : Tag) (name : List Char)
  | beforeValue (t : Tag) (name : List Char)
  deriving DecidableEq

def blank (c : Char) : Bool := c = ' ' || c = '\n' || c = '\t' || c = '\x0c'

/-- A value holds no NUL. -/
def scrub (c : Char) : Char := if c = '\x00' then '\uFFFD' else c

/-- A text in its place. -/
def Place.put : Place → List Char → Place × List Token
  | .content, text => (.content, text.map .character)
  | .value mark t name read, text => (.value mark t name (read ++ text.map scrub), [])

/-- One character of a text. -/
def Place.step (p : Place) (c : Char) : Mode × List Token :=
  match p with
  | .content =>
      if c = '<' then (.tagOpen, [])
      else if c = '&' then (.reference p [], [])
      else (.text (p.put [c]).1, (p.put [c]).2)
  | .value mark t name read =>
      if mark = some c ∨ (mark = none ∧ blank c) then (.beforeAttribute (t.put name read), [])
      else if mark = none ∧ c = '>' then (.text .content, [.tag (t.put name read)])
      else if c = '&' then (.reference p [], [])
      else (.text (p.put [c]).1, (p.put [c]).2)

/-- One character of a page. -/
def step : Mode → Char → Mode × List Token
  | .text p, c => p.step c
  | .reference p name, c =>
      if c = ';' then
        let put := p.put (match reference? name with
          | some d => [d]
          | none => '&' :: name ++ [';'])
        (.text put.1, put.2)
      else if c.isAlphanum ∨ c = '#' then (.reference p (name ++ [c]), [])
      else
        let put := p.put ('&' :: name)
        ((put.1.step c).1, put.2 ++ (put.1.step c).2)
  | .tagOpen, c =>
      if c = '!' then (.declaration [], [])
      else if c = '/' then (.tagName { closing := true }, [])
      else if c.isAlpha then (.tagName { name := [c.toLower] }, [])
      else ((Place.content.step c).1, .character '<' :: (Place.content.step c).2)
  | .declaration text, c =>
      if c = '>' then (.text .content, [.declaration text]) else (.declaration (text ++ [c]), [])
  | .tagName t, c =>
      if blank c ∨ c = '/' then (.beforeAttribute t, [])
      else if c = '>' then (.text .content, [.tag t])
      else (.tagName { t with name := t.name ++ [c.toLower] }, [])
  | .beforeAttribute t, c =>
      if blank c ∨ c = '/' then (.beforeAttribute t, [])
      else if c = '>' then (.text .content, [.tag t])
      else (.attributeName t [c.toLower], [])
  | .attributeName t name, c =>
      if blank c then (.afterName t name, [])
      else if c = '/' then (.beforeAttribute (t.put name []), [])
      else if c = '>' then (.text .content, [.tag (t.put name [])])
      else if c = '=' then (.beforeValue t name, [])
      else (.attributeName t (name ++ [c.toLower]), [])
  | .afterName t name, c =>
      if blank c then (.afterName t name, [])
      else if c = '/' then (.beforeAttribute (t.put name []), [])
      else if c = '>' then (.text .content, [.tag (t.put name [])])
      else if c = '=' then (.beforeValue t name, [])
      else (.attributeName (t.put name []) [c.toLower], [])
  | .beforeValue t name, c =>
      if blank c then (.beforeValue t name, [])
      else if c = '"' ∨ c = '\'' then (.text (.value (some c) t name []), [])
      else if c = '>' then (.text .content, [.tag (t.put name [])])
      else (Place.value none t name []).step c

/-- The characters of a page one after the other, with the tokens they end. -/
def run : Mode → List Char → Mode × List Token
  | m, [] => (m, [])
  | m, c :: rest =>
      let next := step m c
      ((run next.1 rest).1, next.2 ++ (run next.1 rest).2)

/-- The tokens of a page. -/
def tokens (page : List Char) : List Token := (run (.text .content) (lines false page)).2

/-! ## Forms -/

/-- A field of a form, or one of the buttons that submit it. -/
structure Control where
  button : Bool := false
  name : List Char
  value : List Char
  deriving DecidableEq

structure Form where
  action : List Char
  method : List Char
  controls : List Control := []
  deriving DecidableEq

/-- The control of a tag. -/
def Token.control : Token → Option Control
  | .tag t =>
      if t.closing = false ∧ (t.name = "input".toList ∨ t.name = "button".toList) then
        some
          { button := t.name = "button".toList
            name := (t.attribute "name".toList).getD []
            value := (t.attribute "value".toList).getD [] }
      else none
  | _ => none

/-- The form a tag opens. -/
def Token.form : Token → Option Form
  | .tag t =>
      if t.closing = false ∧ t.name = "form".toList then
        some
          { action := (t.attribute "action".toList).getD []
            method := (t.attribute "method".toList).getD [] }
      else none
  | _ => none

def Token.closesForm : Token → Bool
  | .tag t => t.closing && t.name = "form".toList
  | _ => false

/-- The forms of a page, each with its controls in order. -/
def collect : Option Form → List Token → List Form
  | current, [] => current.toList
  | none, token :: rest => collect token.form rest
  | some form, token :: rest =>
      if token.closesForm then form :: collect none rest
      else collect (some { form with controls := form.controls ++ token.control.toList }) rest

def forms (page : List Char) : List Form := collect none (tokens page)

/-- The value an attribute is read with. -/
def attributeValue (text : List Char) : List Char := (lines false text).map scrub

/-- A text with the line ends it is submitted with. -/
def submittedLines (text : List Char) : List Char :=
  (lines false text).flatMap fun c => if c = '\n' then ['\r', '\n'] else [c]

/-- What a form sends: its fields with a name, and the button pressed. -/
def Form.entries (form : Form) (pressed : Option Control) : List (List Char × List Char) :=
  (form.controls.filter fun c =>
      c.name ≠ [] ∧ (c.button = false ∨ some c = pressed)).map fun c =>
    (submittedLines c.name, submittedLines c.value)

/-! ## Pages with values -/

/-- A part of a page: markup, or a value that is escaped. -/
inductive Piece where
  | markup (text : List Char)
  | value (text : List Char)

def Piece.render : Piece → List Char
  | .markup text => text
  | .value text => escape text

def render (pieces : List Piece) : List Char := pieces.flatMap Piece.render

/-- The values of a page with their line ends as they are read. -/
def Piece.lined : Piece → Piece
  | .markup text => .markup text
  | .value text => .value (lines false text)

/-- The pieces do not share a line end; the flag says that a value stands before. -/
def separated : Bool → List Piece → Bool
  | _, [] => true
  | afterValue, .markup text :: rest =>
      '\r' ∉ text && (!afterValue || text.head?.any (· ≠ '\n')) && separated false rest
  | afterValue, .value _ :: rest => !afterValue && separated true rest

/-- The place of a value, when it is one that the value cannot leave. -/
def Mode.holds : Mode → Option Place
  | .text .content => some .content
  | .text (.value (some mark) t name read) =>
      if mark = '"' ∨ mark = '\'' then some (.value (some mark) t name read) else none
  | _ => none

/-- The pieces of a page, with every value put into its place. -/
def readPieces : Mode → List Piece → Mode × List Token
  | m, [] => (m, [])
  | m, .markup text :: rest =>
      let next := run m text
      ((readPieces next.1 rest).1, next.2 ++ (readPieces next.1 rest).2)
  | m, .value text :: rest =>
      let next := match m.holds with
        | some p => (Mode.text (p.put text).1, (p.put text).2)
        | none => run m (escape text)
      ((readPieces next.1 rest).1, next.2 ++ (readPieces next.1 rest).2)

/-! ## Escaped values -/

@[simp] theorem run_nil (m : Mode) : run m [] = (m, []) := rfl

theorem run_append (m : Mode) (first rest : List Char) :
    run m (first ++ rest) =
      ((run (run m first).1 rest).1, (run m first).2 ++ (run (run m first).1 rest).2) := by
  induction first generalizing m with
  | nil => rfl
  | cons c first ih => simp [run, ih]

theorem put_append (p : Place) (first rest : List Char) :
    p.put (first ++ rest) =
      (((p.put first).1.put rest).1, (p.put first).2 ++ ((p.put first).1.put rest).2) := by
  cases p <;> simp [Place.put]

/-- A place that a value keeps: text, or a value between quotes. -/
def Place.Closed : Place → Prop
  | .content => True
  | .value mark _ _ _ => mark = some '"' ∨ mark = some '\''

theorem closed_content : Place.content.Closed := trivial

theorem closed_quoted (t : Tag) (name read : List Char) :
    (Place.value (some '"') t name read).Closed := Or.inl rfl

theorem Place.Closed.put {p : Place} (h : p.Closed) (text : List Char) : (p.put text).1.Closed := by
  cases p <;> exact h

/-- A reference with a `;` is read to its end. -/
theorem run_reference (p : Place) {name rest : List Char} {d : Char}
    (hrest : ∀ c ∈ rest, c.isAlphanum = true ∨ c = '#') (h : reference? (name ++ rest) = some d) :
    run (.reference p name) (rest ++ [';']) = (.text (p.put [d]).1, (p.put [d]).2) := by
  induction rest generalizing name with
  | nil =>
      rw [List.append_nil] at h
      simp [run, step, h]
  | cons c rest ih =>
      have hc : c ≠ ';' := by
        rintro rfl
        rcases hrest ';' (by simp) with h | h
        · revert h
          decide
        · revert h
          decide
      have hread : step (.reference p name) c = (.reference p (name ++ [c]), []) := by
        simp only [step, if_neg hc, if_pos (hrest c (by simp))]
      rw [List.cons_append, run, hread]
      simp only [List.nil_append]
      exact ih (fun e he => hrest e (by simp [he])) (by simpa using h)

/-- A character that needs no escape. -/
theorem step_plain {p : Place} (h : p.Closed) {c : Char} (hamp : c ≠ '&') (hlt : c ≠ '<')
    (hquot : c ≠ '"') (hapos : c ≠ '\'') :
    p.step c = (.text (p.put [c]).1, (p.put [c]).2) := by
  cases p with
  | content => simp [Place.step, hlt, hamp]
  | value mark t name read =>
      have hmark : mark ≠ some c := by
        rcases h with rfl | rfl
        · simpa using hquot.symm
        · simpa using hapos.symm
      have hquoted : mark ≠ none := by
        rcases h with rfl | rfl <;> simp
      simp [Place.step, hmark, hquoted, hamp]

theorem step_ampersand {p : Place} (h : p.Closed) : p.step '&' = (.reference p [], []) := by
  cases p with
  | content => simp [Place.step]
  | value mark t name read =>
      rcases h with rfl | rfl <;> simp [Place.step]

/-- An escaped character is put into its place. -/
theorem run_escapeChar {p : Place} (h : p.Closed) (c : Char) :
    run (.text p) (escapeChar c) = (.text (p.put [c]).1, (p.put [c]).2) := by
  have href : ∀ name d, name.all (fun e => e.isAlphanum || e = '#') = true →
      reference? name = some d →
      run (.text p) ('&' :: (name ++ [';'])) = (.text (p.put [d]).1, (p.put [d]).2) := by
    intro name d hname hd
    have hread : run (.reference p []) (name ++ [';']) =
        (.text (p.put [d]).1, (p.put [d]).2) :=
      run_reference p (fun e he => by simpa using List.all_eq_true.mp hname e he) hd
    rw [run, step, step_ampersand h, hread]
    rfl
  by_cases hamp : c = '&'
  · subst hamp
    exact href "amp".toList '&' (by decide) (by decide)
  by_cases hlt : c = '<'
  · subst hlt
    exact href "lt".toList '<' (by decide) (by decide)
  by_cases hgt : c = '>'
  · subst hgt
    exact href "gt".toList '>' (by decide) (by decide)
  by_cases hquot : c = '"'
  · subst hquot
    exact href "quot".toList '"' (by decide) (by decide)
  by_cases hapos : c = '\''
  · subst hapos
    exact href "#x27".toList '\'' (by decide) (by decide)
  simp [escapeChar, hamp, hlt, hgt, hquot, hapos, run, step, step_plain h hamp hlt hquot hapos]

/-- An escaped text is put into its place, and the reader stays there. -/
theorem run_escape {p : Place} (h : p.Closed) (text : List Char) :
    run (.text p) (escape text) = (.text (p.put text).1, (p.put text).2) := by
  induction text generalizing p with
  | nil => cases p <;> simp [escape, Place.put]
  | cons c text ih =>
      have hescape : escape (c :: text) = escapeChar c ++ escape text := rfl
      rw [hescape, run_append, run_escapeChar h, ih (h.put [c])]
      exact (put_append p [c] text).symm ▸ rfl

/-- A text without markup is its own escape. -/
theorem escape_eq_self {text : List Char}
    (h : ∀ c ∈ text, c ≠ '&' ∧ c ≠ '<' ∧ c ≠ '>' ∧ c ≠ '"' ∧ c ≠ '\'') : escape text = text := by
  induction text with
  | nil => rfl
  | cons c text ih =>
      obtain ⟨hamp, hlt, hgt, hquot, hapos⟩ := h c (by simp)
      have hescape : escape (c :: text) = escapeChar c ++ escape text := rfl
      rw [hescape, ih fun d hd => h d (by simp [hd])]
      simp [escapeChar, hamp, hlt, hgt, hquot, hapos]

/-! ## Line ends of a page -/

/-- The text ends with a return, or is empty after one. -/
def returned : Bool → List Char → Bool
  | afterReturn, [] => afterReturn
  | _, c :: rest => returned (c = '\r') rest

theorem lines_append (afterReturn : Bool) (first rest : List Char) :
    lines afterReturn (first ++ rest) =
      lines afterReturn first ++ lines (returned afterReturn first) rest := by
  induction first generalizing afterReturn with
  | nil => rfl
  | cons c first ih =>
      by_cases hc : c = '\n' ∧ afterReturn = true
      · simp [lines, hc, ih, returned]
      · simp only [List.cons_append, lines, hc, if_false, returned, ih]

theorem lines_of_head {c : Char} (h : c ≠ '\n') (afterReturn : Bool) (rest : List Char) :
    lines afterReturn (c :: rest) = lines false (c :: rest) := by
  simp [lines, h]

/-- A text without returns is read as it is. -/
theorem lines_eq_self {text : List Char} (h : '\r' ∉ text) :
    lines false text = text ∧ returned false text = false := by
  induction text with
  | nil => exact ⟨rfl, rfl⟩
  | cons c text ih =>
      simp only [List.mem_cons, not_or] at h
      simp [lines, returned, Ne.symm h.1, ih h.2]

/-- A character is its own escape, or its escape is one of the references. -/
theorem escapeChar_cases (c : Char) :
    escapeChar c = [c] ∨
      c ≠ '\n' ∧ c ≠ '\r' ∧ ∃ rest, escapeChar c = '&' :: rest ∧ '\r' ∉ rest := by
  by_cases hamp : c = '&'
  · subst hamp
    exact .inr ⟨by decide, by decide, "amp;".toList, by decide, by decide⟩
  by_cases hlt : c = '<'
  · subst hlt
    exact .inr ⟨by decide, by decide, "lt;".toList, by decide, by decide⟩
  by_cases hgt : c = '>'
  · subst hgt
    exact .inr ⟨by decide, by decide, "gt;".toList, by decide, by decide⟩
  by_cases hquot : c = '"'
  · subst hquot
    exact .inr ⟨by decide, by decide, "quot;".toList, by decide, by decide⟩
  by_cases hapos : c = '\''
  · subst hapos
    exact .inr ⟨by decide, by decide, "#x27;".toList, by decide, by decide⟩
  exact .inl (by simp [escapeChar, hamp, hlt, hgt, hquot, hapos])

/-- The line ends of a value are those of its escape. -/
theorem lines_escape (afterReturn : Bool) (text : List Char) :
    lines afterReturn (escape text) = escape (lines afterReturn text) ∧
      returned afterReturn (escape text) = returned afterReturn text := by
  have hcons : ∀ d rest, escape (d :: rest) = escapeChar d ++ escape rest := fun _ _ => rfl
  have hreturned : ∀ b first rest,
      returned b (first ++ rest) = returned (returned b first) rest := by
    intro b first rest
    induction first generalizing b with
    | nil => rfl
    | cons d first ih => exact ih _
  induction text generalizing afterReturn with
  | nil => exact ⟨rfl, rfl⟩
  | cons c text ih =>
      rw [hcons, lines_append, hreturned]
      rcases escapeChar_cases c with hself | ⟨hnewline, hreturn, rest, hrest, hplain⟩
      · rw [hself]
        by_cases hskip : c = '\n' ∧ afterReturn = true
        · obtain ⟨rfl, rfl⟩ := hskip
          simp [lines, returned, ih]
        · by_cases hc : c = '\r'
          · subst hc
            simp [lines, returned, ih, hcons, escapeChar]
          · simp [lines, returned, ih, hskip, hc, hcons, hself]
      · have hkept := lines_eq_self hplain
        rw [hrest]
        simp [lines, returned, ih, hnewline, hreturn, hcons, hrest, hkept]

/-! ## What a reader finds -/

theorem Mode.holds_eq {m : Mode} {p : Place} (h : m.holds = some p) :
    m = .text p ∧ p.Closed := by
  cases m with
  | text place =>
      cases place with
      | content =>
          cases h
          exact ⟨rfl, trivial⟩
      | value mark t name read =>
          cases mark with
          | none => simp [Mode.holds] at h
          | some mark =>
              by_cases hmark : mark = '"' ∨ mark = '\''
              · rw [Mode.holds, if_pos hmark] at h
                cases h
                exact ⟨rfl, by simpa [Place.Closed] using hmark⟩
              · rw [Mode.holds, if_neg hmark] at h
                cases h
  | _ => cases h

/-- The values of a page are put into their places. -/
theorem run_render (m : Mode) (pieces : List Piece) :
    run m (render pieces) = readPieces m pieces := by
  induction pieces generalizing m with
  | nil => rfl
  | cons piece pieces ih =>
      have hrender : render (piece :: pieces) = piece.render ++ render pieces := rfl
      rw [hrender, run_append, ih]
      cases piece with
      | markup text => rfl
      | value text =>
          cases hholds : m.holds with
          | none => simp [readPieces, hholds, Piece.render]
          | some p =>
              obtain ⟨rfl, hclosed⟩ := Mode.holds_eq hholds
              simp [readPieces, hholds, Piece.render, run_escape hclosed]

/-- The line ends of a page are those of its values. -/
theorem lines_render {pieces : List Piece} {afterValue afterReturn : Bool}
    (h : separated afterValue pieces = true) (hflag : afterReturn = true → afterValue = true) :
    lines afterReturn (render pieces) = render (pieces.map Piece.lined) := by
  induction pieces generalizing afterValue afterReturn with
  | nil => rfl
  | cons piece pieces ih =>
      have hrender : render (piece :: pieces) = piece.render ++ render pieces := rfl
      cases piece with
      | markup text =>
          simp only [separated, Bool.and_eq_true, decide_eq_true_eq] at h
          obtain ⟨⟨hplain, hhead⟩, hrest⟩ := h
          have hread : lines afterReturn (text ++ render pieces) =
              lines false (text ++ render pieces) := by
            by_cases hreturn : afterReturn = true
            · cases text with
              | nil => simp [hflag hreturn] at hhead
              | cons c text => exact lines_of_head (by simpa [hflag hreturn] using hhead) _ _
            · rw [Bool.not_eq_true] at hreturn
              rw [hreturn]
          have hself := lines_eq_self hplain
          rw [hrender, Piece.render, hread, lines_append, hself.1, hself.2,
            ih hrest (fun h => h)]
          rfl
      | value text =>
          simp only [separated, Bool.and_eq_true, Bool.not_eq_true'] at h
          have hreturn : afterReturn = false := by
            cases afterReturn with
            | false => rfl
            | true => simp [hflag rfl] at h
          rw [hrender, Piece.render, lines_append, (lines_escape afterReturn text).1,
            ih h.2 (fun _ => rfl), hreturn]
          rfl

/-- The tokens of a page are those of its markup, with the values in their places. -/
theorem tokens_render {pieces : List Piece} (h : separated false pieces = true) :
    tokens (render pieces) = (readPieces (.text .content) (pieces.map Piece.lined)).2 := by
  rw [tokens, lines_render h (fun h => h), run_render]

theorem readPieces_append (m : Mode) (first rest : List Piece) :
    readPieces m (first ++ rest) =
      ((readPieces (readPieces m first).1 rest).1,
        (readPieces m first).2 ++ (readPieces (readPieces m first).1 rest).2) := by
  simp only [← run_render, render, List.flatMap_append, run_append]

theorem readPieces_markup {m m' : Mode} {text : List Char} {ts : List Token}
    (h : run m text = (m', ts)) (rest : List Piece) :
    readPieces m (.markup text :: rest) =
      ((readPieces m' rest).1, ts ++ (readPieces m' rest).2) := by
  rw [readPieces, h]

/-- Markup at the end of a page. -/
theorem readPieces_last (m : Mode) (text : List Char) :
    (readPieces m [.markup text]).2 = (run m text).2 := by
  simp only [readPieces, List.append_nil]

theorem readPieces_value {p : Place} (h : p.Closed) (text : List Char) (rest : List Piece) :
    readPieces (.text p) (.value text :: rest) =
      ((readPieces (.text (p.put text).1) rest).1,
        (p.put text).2 ++ (readPieces (.text (p.put text).1) rest).2) := by
  have hread := run_render (.text p) (.value text :: rest)
  have hrender : render (.value text :: rest) = escape text ++ render rest := rfl
  rw [hrender, run_append, run_escape h, run_render] at hread
  exact hread.symm

/-- The flag behind some pieces. -/
def endsWithValue : Bool → List Piece → Bool
  | afterValue, [] => afterValue
  | _, .markup _ :: rest => endsWithValue false rest
  | _, .value _ :: rest => endsWithValue true rest

theorem endsWithValue_append (afterValue : Bool) (first rest : List Piece) :
    endsWithValue afterValue (first ++ rest) =
      endsWithValue (endsWithValue afterValue first) rest := by
  induction first generalizing afterValue with
  | nil => rfl
  | cons piece first ih => cases piece <;> exact ih _

theorem separated_append (afterValue : Bool) (first rest : List Piece) :
    separated afterValue (first ++ rest) =
      (separated afterValue first && separated (endsWithValue afterValue first) rest) := by
  induction first generalizing afterValue with
  | nil => rfl
  | cons piece first ih =>
      cases piece <;> simp [separated, endsWithValue, ih, Bool.and_assoc]

/-- What holds of the characters a literal is made of. -/
theorem of_literal {P : List Char → Prop} {text : List Char} (h : P text) :
    P (String.ofList text).toList := by
  rwa [String.toList_ofList]

/-! ## The forms of a page -/

/-- The value a server receives for the value of a field. -/
def received (text : List Char) : List Char := submittedLines (attributeValue text)

theorem attributeValue_eq_self {text : List Char} (hreturn : '\r' ∉ text)
    (hnul : '\x00' ∉ text) : attributeValue text = text := by
  rw [attributeValue, (lines_eq_self hreturn).1]
  conv_rhs => rw [← List.map_id text]
  apply List.map_congr_left
  intro c hc
  have hc : c ≠ '\x00' := fun h => hnul (h ▸ hc)
  simp [scrub, hc]

theorem submittedLines_eq_self {text : List Char} (hnewline : '\n' ∉ text)
    (hreturn : '\r' ∉ text) : submittedLines text = text := by
  rw [submittedLines, (lines_eq_self hreturn).1]
  have hkept : ∀ c ∈ text, (if c = '\n' then ['\r', '\n'] else [c]) = [c] := by
    intro c hc
    have hc : c ≠ '\n' := fun h => hnewline (h ▸ hc)
    rw [if_neg hc]
  rw [List.flatMap_congr hkept, List.flatMap_singleton']

/-- A value on one line is received as it is. -/
theorem received_eq_self {text : List Char} (hnewline : '\n' ∉ text) (hreturn : '\r' ∉ text)
    (hnul : '\x00' ∉ text) : received text = text := by
  rw [received, attributeValue_eq_self hreturn hnul, submittedLines_eq_self hnewline hreturn]

/-- Outside a form, tokens that open none are skipped. -/
theorem collect_none_append {ts : List Token} (h : ts.all (fun t => t.form.isNone) = true)
    (rest : List Token) : collect none (ts ++ rest) = collect none rest := by
  induction ts with
  | nil => rfl
  | cons t ts ih =>
      simp only [List.all_cons, Bool.and_eq_true, Option.isNone_iff_eq_none] at h
      rw [List.cons_append, collect, h.1]
      exact ih h.2

/-- Inside a form, the controls before its end are its own. -/
theorem collect_some (form : Form) (ts : List Token) :
    collect (some form) ts =
      { form with controls := form.controls ++
          (ts.takeWhile fun t => !t.closesForm).flatMap fun t => t.control.toList } ::
        collect none ((ts.dropWhile fun t => !t.closesForm).drop 1) := by
  induction ts generalizing form with
  | nil => simp [collect]
  | cons t ts ih =>
      by_cases hclose : t.closesForm = true
      · simp [collect, hclose]
      · simp [collect, hclose, ih]

/-- The text of a form is none of its controls. -/
theorem collect_characters (form : Form) (text : List Char) (rest : List Token) :
    collect (some form) (text.map .character ++ rest) = collect (some form) rest := by
  induction text with
  | nil => rfl
  | cons c text ih =>
      simp only [List.map_cons, List.cons_append, collect, Token.closesForm, Token.control,
        Option.toList_none, List.append_nil]
      exact ih

/-! ## Pieces outside a form -/

/-- The pieces lead the reader from one mode to another and open no form; the flags say
whether a value stands before and behind them. -/
structure Quiet (m : Mode) (afterValue : Bool) (pieces : List Piece) (m' : Mode)
    (afterValue' : Bool) : Prop where
  leads : (readPieces m (pieces.map Piece.lined)).1 = m'
  opens : (readPieces m (pieces.map Piece.lined)).2.all (fun t => t.form.isNone) = true
  apart : separated afterValue pieces = true
  ends : endsWithValue afterValue pieces = afterValue'

theorem Quiet.append {m n k : Mode} {a b c : Bool} {first rest : List Piece}
    (hfirst : Quiet m a first n b) (hrest : Quiet n b rest k c) :
    Quiet m a (first ++ rest) k c where
  leads := by rw [List.map_append, readPieces_append, hfirst.leads, hrest.leads]
  opens := by
    rw [List.map_append, readPieces_append, hfirst.leads, List.all_append, hfirst.opens,
      hrest.opens]
    rfl
  apart := by rw [separated_append, hfirst.apart, hfirst.ends, hrest.apart]; rfl
  ends := by rw [endsWithValue_append, hfirst.ends, hrest.ends]

theorem quiet_nil (m : Mode) (b : Bool) : Quiet m b [] m b := ⟨rfl, rfl, rfl, rfl⟩

theorem quiet_markup {m n : Mode} {b : Bool} {text : List Char}
    (h : (run m text).1 = n ∧ (run m text).2.all (fun t => t.form.isNone) = true ∧
      '\r' ∉ text ∧ (!b || text.head?.any (· ≠ '\n')) = true) :
    Quiet m b [.markup text] n false where
  leads := h.1
  opens := by
    rw [List.map_singleton, Piece.lined, readPieces_last]
    exact h.2.1
  apart := by simpa [separated] using h.2.2
  ends := rfl

/-- The markup of a literal. -/
theorem quiet_literal {m n : Mode} {b : Bool} {text : List Char}
    (h : (run m text).1 = n ∧ (run m text).2.all (fun t => t.form.isNone) = true ∧
      '\r' ∉ text ∧ (!b || text.head?.any (· ≠ '\n')) = true) :
    Quiet m b [.markup (String.ofList text).toList] n false := by
  rw [String.toList_ofList]
  exact quiet_markup h

/-- A value in the text of a page is shown. -/
theorem quiet_text (text : List Char) :
    Quiet (.text .content) false [.value text] (.text .content) true where
  leads := by
    rw [List.map_singleton, Piece.lined, readPieces_value closed_content]
    rfl
  opens := by
    rw [List.map_singleton, Piece.lined, readPieces_value closed_content]
    simp only [readPieces, Place.put, List.append_nil]
    exact List.all_eq_true.mpr (List.forall_mem_map.mpr fun _ _ => rfl)
  apart := rfl
  ends := rfl

/-- A value in an attribute stays there. -/
theorem quiet_attribute (t : Tag) (name read text : List Char) :
    Quiet (.text (.value (some '"') t name read)) false [.value text]
      (.text (.value (some '"') t name (read ++ attributeValue text))) true where
  leads := by
    rw [List.map_singleton, Piece.lined, readPieces_value (closed_quoted t name read)]
    rfl
  opens := by
    rw [List.map_singleton, Piece.lined, readPieces_value (closed_quoted t name read)]
    rfl
  apart := rfl
  ends := rfl

/-- The forms of a page are those behind the pieces that open none. -/
theorem Quiet.forms {m : Mode} {b : Bool} {first rest : List Piece}
    (h : Quiet (.text .content) false first m b) (hrest : separated b rest = true) :
    forms (render (first ++ rest)) = collect none (readPieces m (rest.map Piece.lined)).2 := by
  have hseparated : separated false (first ++ rest) = true := by
    rw [separated_append, h.apart, h.ends, hrest]
    rfl
  rw [Html.forms, tokens_render hseparated, List.map_append, readPieces_append, h.leads]
  exact collect_none_append h.opens _

end Html
