import Hush.Log.Line
import Hush.Proofs.Log.Escapes

/-!
# Coloured lines

A line is a row of parts: codes, which only a coloured line has, and texts, which are the same in
both. Where each part of the coloured line strips to its part of the plain one and ends outside of
any sequence, so do any two of them in a row, and at last the whole line.
-/
namespace Hush.Log

/-! ### Texts with no escape character -/

theorem escape_not_mem_toString (n : Nat) : escape ∉ (toString n).toList := by
  rw [Nat.toString_eq_repr, Nat.toList_repr]
  intro h
  have hdigit := Nat.isDigit_of_mem_toDigits (by decide) (by decide) h
  exact absurd hdigit (by decide)

theorem escape_not_mem_lineNumber (n : Option Nat) : escape ∉ (Stamp.lineNumber n).toList := by
  cases n with
  | none => decide
  | some n => exact escape_not_mem_toString n

-- The only characters that are spelled by their numbers are the controls from 0x80 to 0x9f.
theorem escape_not_mem_hexDigits {n : Nat} (hlow : 0x80 ≤ n) (hhigh : n ≤ 0x9f) :
    escape ∉ hexDigits n := by
  have hall : ∀ i < 0x20, escape ∉ hexDigits (0x80 + i) := by decide
  have hn := hall (n - 0x80) (by omega)
  rwa [Nat.add_sub_cancel' hlow] at hn

theorem escape_not_mem_spelled (c : Char) : escape ∉ spelled c := by
  unfold spelled
  split
  · decide
  next hc =>
    iterate 4
      split
      · decide
    split
    next hcontrol =>
      have hopen : escape ∉ "\\u\x7b".toList := by decide
      have hclose : escape ∉ ['}'] := by decide
      rw [List.mem_append, List.mem_append, not_or, not_or]
      exact ⟨⟨hopen, escape_not_mem_hexDigits hcontrol.1 hcontrol.2⟩, hclose⟩
    · exact fun h => hc (List.mem_singleton.mp h).symm

theorem escape_not_mem_spelledOut (message : String) :
    escape ∉ (spelledOut message).toList := by
  rw [spelledOut, String.toList_ofList, List.mem_flatMap]
  rintro ⟨c, -, hc⟩
  exact escape_not_mem_spelled c hc

/-! ### Parts of a line -/

/-- Without the sequences the coloured text is the plain one, and none of them is left open. -/
structure Colours (coloured plain : String) : Prop where
  strips : stripFrom false coloured.toList = plain.toList
  ends : endsInside false coloured.toList = false

/-- Nothing in a code ends the sequence that it stands in, and nothing begins another. -/
def IsCode (code : String) : Prop := ∀ c ∈ code.toList, c ≠ escape ∧ endsSequence c = false

instance (code : String) : Decidable (IsCode code) := List.decidableBAll _ code.toList

namespace Colours

variable {a b p q : String}

theorem strip_eq (h : Colours a p) : strip a = p := by
  rw [strip, h.strips, String.ofList_toList]

theorem text (h : escape ∉ p.toList) : Colours p p :=
  ⟨stripFrom_of_not_mem h, endsInside_of_not_mem h⟩

theorem paint {code : String} (h : IsCode code) :
    Colours (Log.paint true code) (Log.paint false code) := by
  -- The bracket does not end the sequence, and the letter behind the code does.
  have hbegins : endsInside false [escape, '['] = true := by decide
  have hunended : ∀ c ∈ code.toList, endsSequence c = false := fun c hc => (h c hc).2
  have hpainted : (Log.paint true code).toList = [escape, '['] ++ (code.toList ++ ['m']) := by
    have hbrackets : "\x1b[".toList = [escape, '['] := by decide
    have hletter : "m".toList = ['m'] := by decide
    rw [Log.paint, if_pos rfl, String.toList_append, String.toList_append, hbrackets, hletter,
      List.append_assoc]
  constructor
  · rw [hpainted, stripFrom_append, stripFrom_append, hbegins,
      endsInside_of_unended hunended, stripFrom_of_unended hunended]
    rfl
  · rw [hpainted, endsInside_append, endsInside_append, hbegins, endsInside_of_unended hunended]
    decide

theorem append (ha : Colours a p) (hb : Colours b q) : Colours (a ++ b) (p ++ q) := by
  constructor
  · rw [String.toList_append, String.toList_append, stripFrom_append, ha.ends, ha.strips,
      hb.strips]
  · rw [String.toList_append, endsInside_append, ha.ends, hb.ends]

theorem join {α : Type} {coloured plain : α → String} {xs : List α}
    (h : ∀ x ∈ xs, Colours (coloured x) (plain x)) :
    Colours (String.join (xs.map coloured)) (String.join (xs.map plain)) := by
  induction xs with
  | nil => exact ⟨rfl, rfl⟩
  | cons x xs ih =>
    rw [List.map_cons, List.map_cons, String.join_cons, String.join_cons]
    exact (h x List.mem_cons_self).append (ih fun y hy => h y (List.mem_cons_of_mem x hy))

end Colours

/-! ### The line -/

theorem isCode_colour (level : Level) : IsCode level.colour := by
  cases level <;> decide

theorem escape_not_mem_column (level : Level) : escape ∉ level.column.toList := by
  cases level <;> decide

theorem colours_fieldText {field : String × String} (hname : escape ∉ field.1.toList)
    (hvalue : escape ∉ field.2.toList) :
    Colours (fieldText true field) (fieldText false field) := by
  have hreset : Colours (paint true "0") (paint false "0") := .paint (by decide)
  have hdim : Colours (paint true "2") (paint false "2") := .paint (by decide)
  have hitalic : Colours (paint true "3") (paint false "3") := .paint (by decide)
  have hblank : Colours " " " " := .text (by decide)
  have hequals : Colours "=" "=" := .text (by decide)
  exact hblank.append hitalic |>.append (.text hname) |>.append hreset
    |>.append hdim |>.append hequals |>.append hreset |>.append (.text hvalue)

theorem colours_line {stamp : Stamp} {e : Event} (htime : escape ∉ stamp.time.toList)
    (hline : escape ∉ (stamp.showLine e.line).toList) (htarget : escape ∉ e.target.toList)
    (hfields : ∀ field ∈ e.fields, escape ∉ field.1.toList ∧ escape ∉ field.2.toList) :
    Colours (line true stamp e) (line false stamp e) := by
  have hreset : Colours (paint true "0") (paint false "0") := .paint (by decide)
  have hbold : Colours (paint true "1") (paint false "1") := .paint (by decide)
  have hdim : Colours (paint true "2") (paint false "2") := .paint (by decide)
  have hblank : Colours " " " " := .text (by decide)
  -- From here on the parts stand in the order of the line.
  have htimed := hdim.append (.text (by decide : escape ∉ "[".toList)) |>.append (.text htime)
    |>.append (.text (by decide : escape ∉ "]".toList)) |>.append hreset |>.append hblank
  have hlevelled := htimed.append (.paint (isCode_colour e.level)) |>.append hbold
    |>.append (.text (escape_not_mem_column e.level)) |>.append hreset |>.append hblank
  have hthread := hlevelled.append (.text (by decide : escape ∉ "ThreadId(".toList))
    |>.append (.text (escape_not_mem_toString stamp.thread))
    |>.append (.text (by decide : escape ∉ ") ".toList))
  have horigin := hthread.append hdim |>.append (.text htarget)
    |>.append (.text (by decide : escape ∉ ": ".toList)) |>.append (.text hline)
    |>.append hreset |>.append (.text (by decide : escape ∉ " > ".toList))
  have hsaid := horigin.append (.text (escape_not_mem_spelledOut e.message))
    |>.append (.join fun field hf => colours_fieldText (hfields field hf).1 (hfields field hf).2)
  exact hsaid.append hreset |>.append (.text (by decide : escape ∉ "\n".toList))

/-! ### What the lines say -/

theorem paint_false (code : String) : paint false code = "" := rfl

theorem fieldText_false (field : String × String) :
    fieldText false field = " " ++ field.1 ++ "=" ++ field.2 := by
  simp only [fieldText, paint_false, String.append_empty]

theorem line_false (stamp : Stamp) (e : Event) :
    line false stamp e =
      "[" ++ stamp.time ++ "] " ++ e.level.column ++ " ThreadId(" ++ toString stamp.thread ++ ") " ++
        e.target ++ ": " ++ stamp.showLine e.line ++ " > " ++ spelledOut e.message ++
        String.join (e.fields.map fun field => " " ++ field.1 ++ "=" ++ field.2) ++ "\n" := by
  have hfields : fieldText false = fun field => " " ++ field.1 ++ "=" ++ field.2 :=
    funext fieldText_false
  have hclose : "] " = "]" ++ " " := by decide
  have hthread : " ThreadId(" = " " ++ "ThreadId(" := by decide
  unfold line
  dsimp only
  rw [hclose, hthread]
  simp only [hfields, paint_false, String.empty_append, String.append_empty, String.append_assoc]

theorem line_true_ends (stamp : Stamp) (e : Event) :
    ∃ front, line true stamp e = front ++ "\x1b[0m\n" := by
  have hends : "\x1b[0m\n" = paint true "0" ++ "\n" := by decide
  rw [hends]
  exact ⟨_, String.append_assoc⟩

/-- Coloured and plain lines agree: without its escape sequences a coloured line is the plain line
of the same event, time and thread, whatever the message. The plain line is what the event says, part
after part, and the coloured one switches colours off at its end. -/
theorem coloured_line_strips_to_plain (time : String) (thread : Nat) (e : Event)
    (htime : escape ∉ time.toList) (htarget : escape ∉ e.target.toList)
    (hfields : ∀ field ∈ e.fields, escape ∉ field.1.toList ∧ escape ∉ field.2.toList) :
    let stamp : Stamp := ⟨time, thread, Stamp.lineNumber⟩
    strip (line true stamp e) = line false stamp e ∧
    line false stamp e =
      "[" ++ time ++ "] " ++ e.level.column ++ " ThreadId(" ++ toString thread ++ ") " ++
        e.target ++ ": " ++ Stamp.lineNumber e.line ++ " > " ++ spelledOut e.message ++
        String.join (e.fields.map fun field => " " ++ field.1 ++ "=" ++ field.2) ++ "\n" ∧
    ∃ front, line true stamp e = front ++ "\x1b[0m\n" := by
  intro stamp
  have hcolours : Colours (line true stamp e) (line false stamp e) :=
    colours_line htime (escape_not_mem_lineNumber e.line) htarget hfields
  exact ⟨hcolours.strip_eq, line_false stamp e, line_true_ends stamp e⟩

/-- A message may bring a sequence of its own: both lines spell it out. -/
theorem coloured_line_strips_to_plain_escaped :
    let e : Event := ⟨.warn, "hush", none, "\x1b[31mred", [("error", "none")]⟩
    let stamp : Stamp := ⟨"Unknown Time", 1, Stamp.lineNumber⟩
    escape ∈ e.message.toList ∧ strip (line true stamp e) = line false stamp e ∧
      line false stamp e =
        "[Unknown Time] WARN  ThreadId(1) hush: ?? > \\x1b[31mred error=none\n" := by
  intro e stamp
  have hwritten : "[" ++ "Unknown Time" ++ "] " ++ e.level.column ++ " ThreadId(" ++ toString 1 ++
      ") " ++ e.target ++ ": " ++ Stamp.lineNumber e.line ++ " > " ++ spelledOut e.message ++
      String.join (e.fields.map fun field => " " ++ field.1 ++ "=" ++ field.2) ++ "\n" =
        "[Unknown Time] WARN  ThreadId(1) hush: ?? > \\x1b[31mred error=none\n" := by decide
  obtain ⟨hstrips, hplain, -⟩ :=
    coloured_line_strips_to_plain "Unknown Time" 1 e (by decide) (by decide) (by decide)
  exact ⟨by decide, hstrips, hplain.trans hwritten⟩

end Hush.Log
