/-
What a dry run prints (`printDry_printedWith`).

The result of the action comes with the commands, in either form of output. As
text the commands stand a line each below the result; in JSON they are the
strings of an array, again a line each, and the array comes before the result
because members stand in the order of their names.

A line is that of its command alone, and what may stand between two quotes is
told from the characters of the line.
-/
import TrafficShaping.Program
import TrafficShaping.Proofs.Command.Words
import TrafficShaping.Proofs.Json.Records

namespace TrafficShaping

-- ==================================================== statement vocabulary

namespace Json

/-- The characters that are escaped by a letter, or by themselves. -/
def escapes : List (Char × Char) :=
  [('"', '"'), ('\\', '\\'), ('\n', 'n'), ('\r', 'r'), ('\t', 't'), ('\x08', 'b'), ('\x0c', 'f')]

/-- How a text may be written between the quotes of a JSON string. -/
inductive Spells : List Char → List Char → Prop
  | nil : Spells [] []
  | plain {c : Char} {cs written : List Char} (hcontrol : 32 ≤ c.toNat) (hquote : c ≠ '"')
    (hslash : c ≠ '\\') (h : Spells cs written) : Spells (c :: cs) (c :: written)
  | escaped {c mark : Char} {cs written : List Char} (hc : (c, mark) ∈ escapes)
    (h : Spells cs written) : Spells (c :: cs) ('\\' :: mark :: written)
  | coded {c : Char} {high low : Nat} {cs written : List Char} (hlow : low < 16)
    (hc : c.toNat = 16 * high + low) (hhigh : high < 16) (h : Spells cs written) :
    Spells (c :: cs)
      ('\\' :: 'u' :: '0' :: '0' :: Nat.digitChar high :: Nat.digitChar low :: written)

/-- A JSON string stands for a text. -/
def Quotes (text quoted : String) : Prop :=
  ∃ written, Spells text.toList written ∧ quoted = String.ofList ('"' :: written ++ ['"'])

/-- The items of an array that stands in an object, a line each. -/
def column (items : List String) : String :=
  if items = [] then "[]"
  else "[\n" ++ ",\n".intercalate (items.map fun item => "    " ++ item) ++ "\n  ]"

end Json

namespace Outcome

/-- A dry run prints this for an outcome and its commands, without or with the
request for JSON. -/
inductive PrintedWith (o : Outcome) (commands : List Command) : Bool → String → Prop
  | text : PrintedWith o commands false
      (o.text ++ "\n" ++ String.join (commands.map fun k => k.line ++ "\n"))
  | json {items : List String}
    (h : List.Forall₂ (fun k item => Json.Quotes k.line item) commands items) :
    PrintedWith o commands true
      ("\x7b\n  \"commands\": " ++ Json.column items ++ ",\n  \"result\": "
        ++ (o.json.inOrder .byName).renderIndented 1 ++ "\n\x7d\n")

end Outcome

-- ============================================================= strings

namespace Json

/-- The characters with an escape of their own are written with it. -/
theorem escapeChar_of_mem {c mark : Char} (h : (c, mark) ∈ escapes) :
    escapeChar c = ['\\', mark] := by
  have hall : ∀ p ∈ escapes, escapeChar p.1 = ['\\', p.2] := by decide
  exact hall (c, mark) h

/-- Of the others, control characters are written as numbers and the rest as
they are. -/
theorem escapeChar_of_not_mem {c : Char} (h : ∀ mark, (c, mark) ∉ escapes) :
    escapeChar c = if c.toNat < 32 then
        ['\\', 'u', '0', '0', Nat.digitChar (c.toNat / 16), Nat.digitChar (c.toNat % 16)]
      else [c] := by
  have hnot : ∀ p ∈ escapes, (c == p.1) = false := by
    intro p hp
    rw [beq_eq_false_iff_ne]
    intro hc
    exact h p.2 (by rw [hc]; exact hp)
  simp only [escapes, List.forall_mem_cons] at hnot
  obtain ⟨hquote, hslash, hline, hreturn, htab, hback, hfeed, -⟩ := hnot
  unfold escapeChar
  simp only [hquote, hslash, hline, hreturn, htab, hback, hfeed, Bool.false_eq_true, if_false]

/-- Every character is spelled somehow. -/
theorem spells_escapeChar {c : Char} {cs written : List Char} (h : Spells cs written) :
    Spells (c :: cs) (escapeChar c ++ written) := by
  by_cases hescape : ∃ mark, (c, mark) ∈ escapes
  · obtain ⟨mark, hmark⟩ := hescape
    rw [escapeChar_of_mem hmark]
    exact .escaped hmark h
  · rw [not_exists] at hescape
    rw [escapeChar_of_not_mem hescape]
    split
    · next hcontrol => exact .coded (by omega) (by omega) (by omega) h
    · next hcontrol =>
      have hself : (c, c) ∉ escapes := hescape c
      refine .plain (by omega) (fun hc => ?_) (fun hc => ?_) h
      · exact hself (by rw [hc]; decide)
      · exact hself (by rw [hc]; decide)

theorem quotes_quote (text : String) : Quotes text (quote text) := by
  have hspells : ∀ cs : List Char, Spells cs (cs.flatMap escapeChar) := by
    intro cs
    induction cs with
    | nil => exact .nil
    | cons c cs ih =>
        rw [List.flatMap_cons]
        exact spells_escapeChar ih
  exact ⟨_, hspells text.toList, rfl⟩

/-- The items of a list of texts are the texts, quoted. -/
theorem indentedItems_str (depth : Nat) (texts : List String) :
    indentedItems depth (texts.map .str) = texts.map quote := by
  induction texts with
  | nil => rfl
  | cons text texts ih => rw [List.map_cons, indentedItems, ih, renderIndented, List.map_cons]

/-- The array of a member is a column. -/
theorem renderIndented_strs (texts : List String) :
    renderIndented 1 (.arr (texts.map .str)) = column (texts.map quote) := by
  have houter : indent 1 = "  " := rfl
  have hinner : indent (1 + 1) = "    " := rfl
  rw [renderIndented, indentedItems_str]
  unfold bracketed column
  rw [houter, hinner]
  cases texts with
  | nil => rfl
  | cons text texts => simp [String.append_assoc]

/-- The commands of a dry run come before its result, by their names. -/
theorem pretty_result_commands (result : Json) (texts : List String) :
    (Json.obj [("result", result), ("commands", .arr (texts.map .str))]).pretty
      = "\x7b\n  \"commands\": " ++ column (texts.map quote) ++ ",\n  \"result\": "
        ++ (result.inOrder .byName).renderIndented 1 ++ "\n\x7d" := by
  have hitems : sortFields (.arr (texts.map .str)) = .arr (texts.map .str) := by
    rw [sortFields, sortItems_eq, List.map_map]
    rfl
  have hsorted : (Json.obj [("result", result), ("commands", .arr (texts.map .str))]).sortFields
      = .obj [("commands", .arr (texts.map .str)), ("result", result.sortFields)] := by
    have hlater : ¬ "result" < "commands" := by decide
    rw [sortFields, sortMembers, sortMembers, sortMembers, hitems, insertField, insertField,
      if_neg hlater, insertField]
  have hcommands : quote "commands" = "\"commands\"" := by decide
  have hresult : quote "result" = "\"result\"" := by decide
  have houter : indent 0 = "" := rfl
  have hinner : indent (0 + 1) = "  " := rfl
  unfold pretty
  rw [hsorted, renderIndented, indentedFields, indentedFields, indentedFields,
    renderIndented_strs, hcommands, hresult]
  unfold bracketed
  rw [houter, hinner, ← String.toList_inj]
  simp [inOrder]

end Json

-- ============================================================ outcomes

/-- What a dry run prints is the outcome with its commands. -/
theorem Outcome.printDry_printedWith (o : Outcome) (commands : List Command) (json : Bool) :
    o.PrintedWith commands json (o.printDry (commands.map Command.render) json) := by
  have hlines : commands.map Command.render = commands.map Command.line :=
    List.map_congr_left fun k _ => k.render_eq_line
  rw [hlines]
  cases json with
  | false =>
      have htext : o.printDry (commands.map Command.line) false
          = o.text ++ "\n" ++ String.join (commands.map fun k => k.line ++ "\n") := by
        unfold printDry
        rw [if_neg Bool.false_ne_true, List.map_map]
        rfl
      rw [htext]
      exact .text
  | true =>
      have hitems : List.Forall₂ (fun k item => Json.Quotes k.line item) commands
          ((commands.map Command.line).map Json.quote) := by
        rw [List.map_map, List.forall₂_map_right_iff, List.forall₂_same]
        exact fun k _ => Json.quotes_quote k.line
      have hjson : o.printDry (commands.map Command.line) true
          = "\x7b\n  \"commands\": " ++ Json.column ((commands.map Command.line).map Json.quote)
            ++ ",\n  \"result\": " ++ (o.json.inOrder .byName).renderIndented 1 ++ "\n\x7d\n" := by
        unfold printDry
        rw [if_pos rfl, Json.pretty_result_commands, ← String.toList_inj]
        simp
      rw [hjson]
      exact .json hitems

end TrafficShaping
