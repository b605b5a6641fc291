import Mathlib.Data.List.Basic
import Mathlib.Tactic.Common

namespace SqlText

inductive Quote where
  | bracket
  | doubleQuote
  | literal (national : Bool)
  deriving DecidableEq, Repr

def Quote.close : Quote → Char
  | .bracket => ']'
  | .doubleQuote => '"'
  | .literal _ => '\''

inductive Token where
  | word (text : List Char)
  | quoted (kind : Quote) (text : List Char)
  | symbol (c : Char)
  deriving DecidableEq, Repr

/-- Where a reader of T-SQL text stands: between tokens, inside one, or behind a character that the
next character may still extend. -/
inductive State where
  | start
  | word (text : List Char)
  | inside (kind : Quote) (text : List Char)
  | closing (kind : Quote) (text : List Char)
  | dash
  | lineComment
  | slash
  | blockComment (depth : ℕ)
  | blockStar (depth : ℕ)
  | blockSlash (depth : ℕ)
  deriving DecidableEq, Repr

def isWordChar (c : Char) : Bool := c.isAlphanum || c = '_' || c = '@' || c = '#' || c = '$'

def isSpace (c : Char) : Bool := c = ' ' || c = '\n' || c = '\t' || c = '\x0d'

def stepStart (c : Char) : List Token × State :=
  if c = '[' then ([], .inside .bracket [])
  else if c = '"' then ([], .inside .doubleQuote [])
  else if c = '\'' then ([], .inside (.literal false) [])
  else if c = '-' then ([], .dash)
  else if c = '/' then ([], .slash)
  else if isSpace c then ([], .start)
  else if isWordChar c then ([], .word [c])
  else ([.symbol c], .start)

def emit (ts : List Token) (p : List Token × State) : List Token × State := (ts ++ p.1, p.2)

def step : State → Char → List Token × State
  | .start, c => stepStart c
  | .word text, c =>
    if isWordChar c then ([], .word (text ++ [c]))
    else if c = '\'' ∧ (text = ['N'] ∨ text = ['n']) then ([], .inside (.literal true) [])
    else emit [.word text] (stepStart c)
  | .inside kind text, c =>
    if c = kind.close then ([], .closing kind text) else ([], .inside kind (text ++ [c]))
  | .closing kind text, c =>
    if c = kind.close then ([], .inside kind (text ++ [c])) else emit [.quoted kind text] (stepStart c)
  | .dash, c => if c = '-' then ([], .lineComment) else emit [.symbol '-'] (stepStart c)
  | .lineComment, c => if c = '\n' then ([], .start) else ([], .lineComment)
  | .slash, c => if c = '*' then ([], .blockComment 0) else emit [.symbol '/'] (stepStart c)
  | .blockComment depth, c =>
    if c = '*' then ([], .blockStar depth)
    else if c = '/' then ([], .blockSlash depth)
    else ([], .blockComment depth)
  | .blockStar depth, c =>
    if c = '/' then (match depth with | 0 => ([], .start) | d + 1 => ([], .blockComment d))
    else if c = '*' then ([], .blockStar depth)
    else ([], .blockComment depth)
  | .blockSlash depth, c =>
    if c = '*' then ([], .blockComment (depth + 1))
    else if c = '/' then ([], .blockSlash depth)
    else ([], .blockComment depth)

def run : State → List Char → List Token × State
  | s, [] => ([], s)
  | s, c :: cs => emit (step s c).1 (run (step s c).2 cs)

def finish : State → Option (List Token)
  | .start | .lineComment => some []
  | .word text => some [.word text]
  | .closing kind text => some [.quoted kind text]
  | .dash => some [.symbol '-']
  | .slash => some [.symbol '/']
  | .inside _ _ | .blockComment _ | .blockStar _ | .blockSlash _ => none

def tokens (text : List Char) : Option (List Token) :=
  let (ts, s) := run .start text
  (finish s).map (ts ++ ·)

def escape (kind : Quote) (text : List Char) : List Char :=
  text.flatMap fun c => if c = kind.close then [c, c] else [c]

@[simp] theorem emit_nil (p : List Token × State) : emit [] p = p := by simp [emit]

@[simp] theorem emit_emit (ts us : List Token) (p : List Token × State) :
    emit ts (emit us p) = emit (ts ++ us) p := by
  simp [emit]

@[simp] theorem run_nil (s : State) : run s [] = ([], s) := rfl

theorem run_cons (s : State) (c : Char) (cs : List Char) :
    run s (c :: cs) = emit (step s c).1 (run (step s c).2 cs) := rfl

theorem run_append (s : State) (xs ys : List Char) :
    run s (xs ++ ys) = emit (run s xs).1 (run (run s xs).2 ys) := by
  induction xs generalizing s with
  | nil => simp
  | cons c xs ih => simp only [List.cons_append, run_cons, ih, emit, List.append_assoc]

theorem run_escape (kind : Quote) (acc text rest : List Char) :
    run (.inside kind acc) (escape kind text ++ rest) = run (.inside kind (acc ++ text)) rest := by
  induction text generalizing acc with
  | nil => simp [escape]
  | cons c text ih =>
    have hcons : escape kind (c :: text) = (if c = kind.close then [c, c] else [c]) ++ escape kind text := rfl
    rw [hcons]
    split
    case isTrue h =>
      have hinside : step (.inside kind acc) c = ([], .closing kind acc) := if_pos h
      have hclosing : step (.closing kind acc) c = ([], .inside kind (acc ++ [c])) := if_pos h
      simp only [List.cons_append, List.nil_append, run_cons, hinside, hclosing, emit_nil, ih,
        List.append_assoc]
    case isFalse h =>
      have hinside : step (.inside kind acc) c = ([], .inside kind (acc ++ [c])) := if_neg h
      simp only [List.cons_append, List.nil_append, run_cons, hinside, emit_nil, ih, List.append_assoc]

theorem run_closing {kind : Quote} {text : List Char} {c : Char} (hc : c ≠ kind.close) (cs : List Char) :
    run (.closing kind text) (c :: cs) = emit [.quoted kind text] (run .start (c :: cs)) := by
  have h : step (.closing kind text) c = emit [.quoted kind text] (stepStart c) := if_neg hc
  rw [run_cons, run_cons, h, emit_emit]
  rfl

/-- Quoted text followed by another character than its closing delimiter reads as one token. -/
theorem run_quoted {kind : Quote} {text : List Char} {c : Char} (hc : c ≠ kind.close) (cs : List Char) :
    run (.inside kind []) (escape kind text ++ kind.close :: c :: cs) =
      emit [.quoted kind text] (run .start (c :: cs)) := by
  have h : step (.inside kind text) kind.close = ([], .closing kind text) := if_pos rfl
  rw [run_escape, List.nil_append, run_cons, h, emit_nil, run_closing hc]

theorem run_word_chars {acc text : List Char} (h : ∀ c ∈ text, isWordChar c = true) (rest : List Char) :
    run (.word acc) (text ++ rest) = run (.word (acc ++ text)) rest := by
  induction text generalizing acc with
  | nil => simp
  | cons c text ih =>
    have hstep : step (.word acc) c = ([], .word (acc ++ [c])) := if_pos (h c (by simp))
    rw [List.cons_append, run_cons, hstep, emit_nil, ih fun d hd => h d (by simp [hd]), List.append_assoc]
    rfl

theorem stepStart_wordChar {c : Char} (h : isWordChar c = true) : stepStart c = ([], .word [c]) := by
  have hne : ∀ d : Char, isWordChar d = false → c ≠ d := by
    rintro d hd rfl
    rw [h] at hd
    cases hd
  have hspace : isSpace c = false := by
    simp only [isSpace, Bool.or_eq_false_iff, decide_eq_false_iff_not]
    exact ⟨⟨⟨hne _ (by decide), hne _ (by decide)⟩, hne _ (by decide)⟩, hne _ (by decide)⟩
  rw [stepStart, if_neg (hne _ (by decide)), if_neg (hne _ (by decide)), if_neg (hne _ (by decide)),
    if_neg (hne _ (by decide)), if_neg (hne _ (by decide)), hspace, if_neg nofun, if_pos h]

theorem run_word {text : List Char} (hne : text ≠ []) (htext : ∀ c ∈ text, isWordChar c = true) {c : Char}
    (hc : isWordChar c = false) (hq : c ≠ '\'') (cs : List Char) :
    run .start (text ++ c :: cs) = emit [.word text] (run .start (c :: cs)) := by
  obtain ⟨d, text, rfl⟩ := List.exists_cons_of_ne_nil hne
  have hstart : step .start d = ([], .word [d]) := stepStart_wordChar (htext d (by simp))
  have hend : step (.word (d :: text)) c = emit [.word (d :: text)] (stepStart c) := by
    rw [step, if_neg (by simp [hc]), if_neg (by simp [hq])]
  rw [List.cons_append, run_cons, hstart, emit_nil, run_word_chars fun e he => htext e (by simp [he]),
    List.singleton_append, run_cons, hend, run_cons, emit_emit]
  rfl

theorem run_fixed {text : List Char} {ts : List Token} (h : run .start text = (ts, .start)) (rest : List Char) :
    run .start (text ++ rest) = emit ts (run .start rest) := by
  rw [run_append, h]

theorem run_space (cs : List Char) : run .start (' ' :: cs) = run .start cs := rfl

theorem run_newline (cs : List Char) : run .start ('\n' :: cs) = run .start cs := rfl

theorem run_dash {c : Char} (hc : c ≠ '-') (cs : List Char) :
    run .start ('-' :: c :: cs) = emit [.symbol '-'] (run .start (c :: cs)) := by
  have hfirst : step .start '-' = ([], .dash) := rfl
  have hnext : step .dash c = emit [.symbol '-'] (stepStart c) := if_neg hc
  rw [run_cons, hfirst, emit_nil, run_cons, hnext, run_cons, emit_emit]
  rfl

theorem run_symbol {c : Char} (h : stepStart c = ([.symbol c], .start)) (cs : List Char) :
    run .start (c :: cs) = emit [.symbol c] (run .start cs) := by
  rw [run_cons, step, h]

end SqlText
