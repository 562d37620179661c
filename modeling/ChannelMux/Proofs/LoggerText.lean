import ChannelMux.Log
import Mathlib

/-! The texts a logger makes, and the levels of loggers held by reference. -/

namespace ChannelMux.Printf

variable {α : Type} (P : Printer α)

/-- The directive `%%`. -/
def percent : Directive := { verb := some '%' }

/-- The pieces escaped characters read as: each `%` a directive `%%`, any other character itself. -/
def escapedPieces (cs : List Char) : List Piece :=
  cs.map fun c => if c = '%' then .directive percent else .text c

theorem parse_percent_percent (rest : List Char) :
    parse ('%' :: '%' :: rest) = .directive percent :: parse rest := by
  have read : readDirective ('%' :: rest) = (percent, rest) := rfl
  rw [parse.eq_2, read]

theorem parse_text {c : Char} (plain : c ≠ '%') (rest : List Char) :
    parse (c :: rest) = .text c :: parse rest :=
  parse.eq_3 c rest plain

theorem parse_escapeChars_append (cs rest : List Char) :
    parse (escapeChars cs ++ rest) = escapedPieces cs ++ parse rest := by
  induction cs with
  | nil => rfl
  | cons c cs ih =>
    by_cases pct : c = '%'
    · subst pct
      simp only [escapeChars, List.flatMap_cons, if_true, List.cons_append, List.nil_append] at ih ⊢
      rw [parse_percent_percent, ih]
      simp [escapedPieces]
    · simp only [escapeChars, List.flatMap_cons, if_neg pct, List.cons_append,
        List.nil_append] at ih ⊢
      rw [parse_text pct, ih]
      simp [escapedPieces, pct]

theorem runPieces_percent (wrap : Bool) (args : List α) (ps : List Piece) (c : Cursor) :
    runPieces P wrap args (.directive percent :: ps) c =
      ("%" ++ (runPieces P wrap args ps c).1, (runPieces P wrap args ps c).2) := rfl

theorem runPieces_escapedPieces (wrap : Bool) (args : List α) (cs : List Char) (ps : List Piece)
    (c : Cursor) :
    runPieces P wrap args (escapedPieces cs ++ ps) c =
      (String.ofList cs ++ (runPieces P wrap args ps c).1, (runPieces P wrap args ps c).2) := by
  induction cs with
  | nil => simp [escapedPieces]
  | cons ch cs ih =>
    have written : String.ofList (ch :: cs) = ch.toString ++ String.ofList cs := by
      rw [← String.toList_inj]
      simp
    by_cases pct : ch = '%'
    · subst pct
      have step :
          escapedPieces ('%' :: cs) ++ ps = .directive percent :: (escapedPieces cs ++ ps) := by
        simp [escapedPieces]
      rw [step, runPieces_percent, ih, written, String.append_assoc]
      rfl
    · have step : escapedPieces (ch :: cs) ++ ps = .text ch :: (escapedPieces cs ++ ps) := by
        simp [escapedPieces, pct]
      rw [step, runPieces, ih, written, String.append_assoc]

theorem render_escape_append (wrap : Bool) (s f : String) (args : List α) :
    render P wrap (escape s ++ f) args = s ++ render P wrap f args := by
  have pieces : parse (escape s ++ f).toList = escapedPieces s.toList ++ parse f.toList := by
    rw [String.toList_append, escape, String.toList_ofList, parse_escapeChars_append]
  unfold render
  rw [pieces, runPieces_escapedPieces, String.ofList_toList]
  generalize runPieces P wrap args (parse f.toList) {} = r
  obtain ⟨t, c⟩ := r
  exact String.append_assoc

theorem Printer.arg_of_ne {v : Char} (other : v ≠ 'w') (wrap : Bool) (flags : Flags)
    (width prec : Option Nat) (a : α) :
    P.arg wrap flags width prec v a = P.print flags width prec v a := by
  simp [Printer.arg, other]

theorem Reading.takeVerb_of_ne {v : Char} (other : v ≠ 'w') (args : List α) (r : Reading) :
    Reading.takeVerb P true args r v = Reading.takeVerb P false args r v := by
  unfold Reading.takeVerb
  split
  · rfl
  · simp only [Printer.arg_of_ne P other]

theorem runPieces_wrap (args : List α) (ps : List Piece) (noWrap : ∀ p ∈ ps, p.verb? ≠ some 'w')
    (c : Cursor) : runPieces P true args ps c = runPieces P false args ps c := by
  induction ps generalizing c with
  | nil => rfl
  | cons p ps ih =>
    have rest := ih fun q mem => noWrap q (List.mem_cons_of_mem p mem)
    cases p with
    | text ch => simp only [runPieces, rest]
    | directive d =>
      cases verb : d.verb with
      | none => simp only [runPieces, verb]
      | some v =>
        have other : v ≠ 'w' := by
          intro same
          exact noWrap (.directive d) List.mem_cons_self (by simp [Piece.verb?, verb, same])
        simp only [runPieces, verb, Reading.takeVerb_of_ne P other, rest]

theorem errorText_eq_sprintf {f : String} (noWrap : 'w' ∉ verbs f) (args : List α) :
    errorText P f args = sprintf P f args := by
  have pieces : ∀ p ∈ parse f.toList, p.verb? ≠ some 'w' := by
    intro p mem named
    exact noWrap (List.mem_filterMap.2 ⟨p, mem, named⟩)
  simp only [errorText, sprintf, render, runPieces_wrap P args _ pieces]

end ChannelMux.Printf

namespace ChannelMux

namespace Logger

variable {α : Type} (P : Printf.Printer α)

theorem prefixed_eq_lead_append (l : Logger) (text : String) :
    l.prefixed text = l.lead ++ text := by
  unfold prefixed lead
  split
  · simp
  · simp [String.append_assoc]

theorem errorf_eq_sprintf (l : Logger) {f : String} (noWrap : 'w' ∉ Printf.verbs f)
    (args : List α) : l.errorf P f args = l.sprintf P f args := by
  unfold errorf sprintf Printf.errorText
  rw [Printf.render_escape_append, ← Printf.errorText, Printf.errorText_eq_sprintf P noWrap]

theorem errorf_eq_prefixed (l : Logger) {f : String} (noWrap : 'w' ∉ Printf.verbs f)
    (args : List α) : l.errorf P f args = l.prefixed (Printf.sprintf P f args) := by
  rw [errorf_eq_sprintf P l noWrap, prefixed_eq_lead_append, sprintf]

theorem intercalate_joined (sep a b : String) (rest : List String) :
    sep.intercalate ((a ++ sep ++ b) :: rest) = sep.intercalate (a :: b :: rest) := by
  cases rest with
  | nil => simp [String.intercalate_cons_cons]
  | cons c rest => simp [String.intercalate_cons_cons, String.append_assoc]

theorem prefixText_forks (l : Logger) (parts : List String) :
    (parts.foldl fork l).prefixText =
      ": ".intercalate ((l.prefixText :: parts).dropWhile (·.isEmpty)) := by
  induction parts generalizing l with
  | nil =>
    by_cases empty : l.prefixText.isEmpty
    · simp only [List.foldl_nil, String.isEmpty_iff.1 empty]
      rfl
    · simp [List.dropWhile, empty]
  | cons part parts ih =>
    rw [List.foldl_cons, ih]
    by_cases empty : l.prefixText.isEmpty
    · simp [prefixText_fork, empty, List.dropWhile]
    · -- a non-empty prefix and what is forked onto it stay whole
      have joined : (l.fork part).prefixText.isEmpty = false := by
        simp [prefixText_fork, empty]
      simp only [List.dropWhile, joined, empty]
      rw [prefixText_fork, if_neg empty, intercalate_joined]

end Logger

namespace LoggerStore

/-- The level a logger has after a run of calls, when it had `level` before: the last level set
on it, if any call set one. -/
def levelAfter (i : Nat) (level : Level) : List LoggerCall → Level
  | [] => level
  | .setLevel j level' :: cs => levelAfter i (if j = i then level' else level) cs
  | .fork _ _ :: cs => levelAfter i level cs

theorem call_fork_keeps {s : LoggerStore} {i : Nat} {l : Logger} (held : s.cells[i]? = some l)
    (j : Nat) (part : String) : (s.call (.fork j part)).cells[i]? = some l := by
  have inside : i < s.cells.length := (List.getElem?_eq_some_iff.1 held).1
  cases found : s.cells[j]? with
  | none => simp [call, found, held]
  | some p => simp [call, found, List.getElem?_append_left inside, held]

theorem level_call {s : LoggerStore} {i : Nat} {l : Logger} (held : s.cells[i]? = some l)
    (c : LoggerCall) :
    ∃ l', (s.call c).cells[i]? = some l' ∧ l'.level = levelAfter i l.level [c] := by
  cases c with
  | fork j part => exact ⟨l, call_fork_keeps held j part, rfl⟩
  | setLevel j level =>
    refine ⟨if j = i then { l with level := level } else l, ?_, ?_⟩
    · simp only [call, List.getElem?_modify, held]
      by_cases same : j = i <;> simp [same]
    · by_cases same : j = i <;> simp [levelAfter, same]

theorem level_run {s : LoggerStore} {i : Nat} {l : Logger} (held : s.cells[i]? = some l)
    (cs : List LoggerCall) :
    ((s.run cs).cells[i]?).map (·.level) = some (levelAfter i l.level cs) := by
  induction cs generalizing s l with
  | nil => simp [run, held, levelAfter]
  | cons c cs ih =>
    obtain ⟨l', held', level'⟩ := level_call held c
    have after : levelAfter i l.level (c :: cs) = levelAfter i l'.level cs := by
      rw [level']
      cases c <;> rfl
    rw [after, ← ih held']
    rfl

theorem call_fork {s : LoggerStore} {i : Nat} {parent : Logger} (held : s.cells[i]? = some parent)
    (part : String) : (s.call (.fork i part)).cells[s.cells.length]? = some (parent.fork part) := by
  simp [call, held]

end LoggerStore

/-- Forks join their prefixes, an error made without `%w` reads as `Sprintf` does, and each logger
keeps the level set on it. -/
theorem logger_prefixes_errors_and_levels :
    (∀ (l : Logger) (parts : List String),
      (parts.foldl Logger.fork l).prefixText =
        ": ".intercalate ((l.prefixText :: parts).dropWhile (·.isEmpty))) ∧
    (∀ {α : Type} (P : Printf.Printer α) (l : Logger) (f : String) (args : List α),
      'w' ∉ Printf.verbs f →
        l.errorf P f args = l.sprintf P f args ∧
        l.sprintf P f args =
          (if l.prefixText.isEmpty then "" else l.prefixText ++ ": ") ++ Printf.sprintf P f args) ∧
    (∀ (s : LoggerStore) (i : Nat) (parent : Logger) (part : String) (cs : List LoggerCall),
      s.cells[i]? = some parent →
        s.cells.length ≠ i ∧
        (((s.call (.fork i part)).run cs).cells[s.cells.length]?).map (·.level) =
          some (LoggerStore.levelAfter s.cells.length parent.level cs) ∧
        (((s.call (.fork i part)).run cs).cells[i]?).map (·.level) =
          some (LoggerStore.levelAfter i parent.level cs)) := by
  refine ⟨Logger.prefixText_forks,
    fun P l f args noWrap => ⟨Logger.errorf_eq_sprintf P l noWrap args, rfl⟩, ?_⟩
  intro s i parent part cs held
  have inside : i < s.cells.length := (List.getElem?_eq_some_iff.1 held).1
  refine ⟨Nat.ne_of_gt inside, ?_,
    LoggerStore.level_run (LoggerStore.call_fork_keeps held i part) cs⟩
  rw [LoggerStore.level_run (LoggerStore.call_fork held part) cs, Logger.level_fork]

/-- Numbers printed in decimal whatever the verb, for the example below. -/
def decimalPrinter : Printf.Printer Nat :=
  ⟨fun _ _ _ _ n => toString n, fun _ _ _ n => toString n, fun n => some n,
    fun n => "int=" ++ toString n⟩

/-- A prefix `50%` prints as it is in an error, and a fork keeps its level when its parent's
changes. -/
theorem percent_prefix_error_and_fork_level :
    'w' ∉ Printf.verbs "%d" ∧
      ({ prefixText := "50%" } : Logger).errorf decimalPrinter "%d" [7] = "50%: 7" ∧
      ({ cells := [{ level := .info }] } : LoggerStore).cells[0]? = some { level := .info } ∧
      (((({ cells := [{ level := .info }] } : LoggerStore).call (.fork 0 "x")).run
        [.setLevel 0 .debug]).cells[1]?).map (·.level) = some .info := by
  have verbs : Printf.verbs "%d" = ['d'] := by cbv
  have noWrap : 'w' ∉ Printf.verbs "%d" := by
    rw [verbs]
    decide
  have held :
      ({ cells := [{ level := .info }] } : LoggerStore).cells[0]? = some { level := .info } := rfl
  obtain ⟨-, errors, levels⟩ := logger_prefixes_errors_and_levels
  refine ⟨noWrap, ?_, held, ?_⟩
  · rw [(errors decimalPrinter _ "%d" [7] noWrap).1, (errors decimalPrinter _ "%d" [7] noWrap).2]
    cbv
  · exact (levels _ 0 _ "x" [.setLevel 0 .debug] held).2.1

end ChannelMux
