import FormCompiler.Component.SchemaExpr
import FormCompiler.Proofs.Delimited
import FormCompiler.Proofs.RuleChecks

/-! The text of a schema determines the rule that it was printed for. A call is cut at its two
parentheses and its arguments at the first comma, which is possible where none of them stands too
early; all that is derived from a field is legible in this way. -/

namespace FormCompiler

theorem messageObject_inj {m n : String} : messageObject m = messageObject n ↔ m = n := by
  simp [messageObject, Markup.braced, String.append_left_inj, String.append_right_inj]

/-- No parenthesis ends the call before its own, and no comma its first argument. -/
structure SchemaCall.Legible (c : SchemaCall) : Prop where
  method : '(' ∉ c.method.toList
  args : ∀ a ∈ c.args, ')' ∉ a.toList
  shape : c.args = [] ∨
    ∃ argument message, c.args = [argument, messageObject message] ∧ ',' ∉ argument.toList

namespace SchemaCall

variable {c d : SchemaCall}

/-- The arguments as they stand between the parentheses. -/
def argsText (c : SchemaCall) : String := ", ".intercalate c.args

theorem toList_text_append (c : SchemaCall) (s : String) :
    (c.text ++ s).toList =
      '.' :: (c.method.toList ++ '(' :: (c.argsText.toList ++ ')' :: s.toList)) := by
  simp [text, argsText]

theorem argsText_pair {argument message : String}
    (h : c.args = [argument, messageObject message]) :
    c.argsText.toList = argument.toList ++ ',' :: ' ' :: (messageObject message).toList := by
  simp [argsText, h, String.intercalate_cons_cons]

theorem Legible.not_mem_argsText (hc : c.Legible) : ')' ∉ c.argsText.toList := by
  rcases hc.shape with h | ⟨argument, message, h, _⟩
  · simp [argsText, h]
  · have hargs := hc.args
    simp only [h, List.forall_mem_cons] at hargs
    simp [argsText_pair h, hargs.1, hargs.2.1]

theorem Legible.args_inj (hc : c.Legible) (hd : d.Legible) (h : c.argsText = d.argsText) :
    c.args = d.args := by
  have hlist := congrArg String.toList h
  rcases hc.shape with hcargs | ⟨a, m, hcargs, ha⟩ <;>
    rcases hd.shape with hdargs | ⟨b, n, hdargs, hb⟩
  · rw [hcargs, hdargs]
  · rw [argsText_pair hdargs] at hlist
    simp [argsText, hcargs] at hlist
  · rw [argsText_pair hcargs] at hlist
    simp [argsText, hdargs] at hlist
  · rw [argsText_pair hcargs, argsText_pair hdargs] at hlist
    obtain ⟨hab, hrest⟩ := Text.cut ha hb hlist
    have hmessage : messageObject m = messageObject n :=
      String.toList_inj.mp (List.cons.inj hrest).2
    rw [hcargs, hdargs, String.toList_inj.mp hab, hmessage]

/-- A legible call ends where its text does, whatever follows. -/
theorem Legible.text_inj (hc : c.Legible) (hd : d.Legible) {s t : String}
    (h : c.text ++ s = d.text ++ t) : c = d ∧ s = t := by
  have hlist := congrArg String.toList h
  rw [toList_text_append, toList_text_append] at hlist
  obtain ⟨hmethod, hrest⟩ := Text.cut hc.method hd.method (List.cons.inj hlist).2
  obtain ⟨hjoined, htail⟩ := Text.cut hc.not_mem_argsText hd.not_mem_argsText hrest
  have hargs := hc.args_inj hd (String.toList_inj.mp hjoined)
  refine ⟨?_, String.toList_inj.mp htail⟩
  calc c = ⟨c.method, c.args⟩ := rfl
    _ = ⟨d.method, d.args⟩ := by rw [String.toList_inj.mp hmethod, hargs]
    _ = d := rfl

end SchemaCall

namespace SchemaHead

variable {h k : SchemaHead}

/-- What stands before the first parenthesis. -/
def callee : SchemaHead → String
  | string => "z.string"
  | coercedNumber => "z.coerce.number"
  | boolean => "z.boolean"
  | stringArray => "z.array"
  | file _ => "z.instanceof"

def argsText : SchemaHead → String
  | string | coercedNumber | boolean => ""
  | stringArray => "z.string()"
  | file none => "File"
  | file (some message) => "File, " ++ messageObject message

/-- No parenthesis in the message ends the call before its own. -/
def Legible (h : SchemaHead) : Prop := ∀ message, h = .file (some message) → ')' ∉ message.toList

theorem toList_text_append (h : SchemaHead) (s : String) :
    (h.text ++ s).toList =
      h.callee.toList ++ '(' :: (h.argsText.toList ++ ')' :: s.toList) := by
  unfold text callee argsText
  cases h with
  | file message =>
    cases message with
    | none => simp
    | some m => simp
  | _ => simp

theorem not_mem_callee (h : SchemaHead) : '(' ∉ h.callee.toList := by
  cases h <;> simp [callee]

theorem callee_inj (heq : h.callee = k.callee) : h = k ∨ ∃ m n, h = .file m ∧ k = .file n := by
  cases h <;> cases k <;> simp [callee] at heq ⊢

theorem not_mem_argsText {message : Option String} (hm : (file message).Legible) :
    ')' ∉ (file message).argsText.toList := by
  cases message with
  | none => simp [argsText]
  | some m => simp [argsText, messageObject, Markup.braced, hm m rfl]

theorem argsText_inj {m n : Option String} (heq : (file m).argsText = (file n).argsText) :
    m = n := by
  have hlist := congrArg String.toList heq
  cases m <;> cases n <;>
    simp [argsText, messageObject, Markup.braced, String.toList_inj] at hlist ⊢
  exact hlist

theorem Legible.text_inj (hh : h.Legible) (hk : k.Legible) {s t : String}
    (heq : h.text ++ s = k.text ++ t) : h = k ∧ s = t := by
  have hlist := congrArg String.toList heq
  rw [toList_text_append, toList_text_append] at hlist
  obtain ⟨hcallee, hrest⟩ := Text.cut h.not_mem_callee k.not_mem_callee hlist
  rcases callee_inj (String.toList_inj.mp hcallee) with rfl | ⟨m, n, rfl, rfl⟩
  · exact ⟨rfl, by simpa [String.toList_inj] using hrest⟩
  · obtain ⟨hargs, htail⟩ := Text.cut (not_mem_argsText hh) (not_mem_argsText hk) hrest
    rw [argsText_inj (String.toList_inj.mp hargs)]
    exact ⟨rfl, String.toList_inj.mp htail⟩

end SchemaHead

namespace Check

variable {c d : Check}

/-- Checks of which the argument says exactly what is asked for, as a text of a number need not. -/
def IsDiscrete : Check → Prop
  | minLength _ | maxLength _ | pattern _ | mustBeTrue => True
  | min _ | max _ | optional => False

theorem not_mem_method (c : Check) : '(' ∉ c.call.1.toList := by
  cases c <;> simp [call]

theorem IsDiscrete.argument (hc : c.IsDiscrete) :
    ∃ argument, c.call.2 = [argument] ∧ ',' ∉ argument.toList ∧ ')' ∉ argument.toList := by
  cases c with
  | minLength n | maxLength n =>
    exact ⟨toString n, rfl, Text.not_mem_toString n rfl, Text.not_mem_toString n rfl⟩
  | pattern p => exact ⟨"/" ++ p.source ++ "/", rfl, by cases p <;> decide, by cases p <;> decide⟩
  | mustBeTrue => exact ⟨"val => val === true", rfl, by decide, by decide⟩
  | min | max | optional => exact hc.elim

/-- Checks of two kinds differ in their methods, unless one of them is a number's. -/
theorem IsDiscrete.call_inj (hc : c.IsDiscrete) (hd : d.IsDiscrete) (h : c.call = d.call) :
    c = d := by
  have hpattern {p q : Pattern} (hpq : p.source = q.source) : p = q := by
    revert hpq
    cases p <;> cases q <;> decide
  obtain ⟨hmethod, hargs⟩ := Prod.mk.inj h
  cases c <;> cases d <;> simp at hmethod hargs
  case minLength.minLength => rw [Text.toString_inj.mp hargs]
  case maxLength.maxLength => rw [Text.toString_inj.mp hargs]
  case pattern.pattern => rw [hpattern hargs]
  case mustBeTrue.mustBeTrue => rfl
  all_goals first | exact hc.elim | exact hd.elim

end Check

namespace Constraint

variable {c d : Constraint}

inductive Legible : Constraint → Prop
  | optional : Legible .optional
  | checked {check : Check} {message : String} (hcheck : check.IsDiscrete)
      (hmessage : ')' ∉ message.toList) : Legible ⟨check, some message⟩

theorem args_call {check : Check} {argument message : String} (h : check.call.2 = [argument]) :
    (Constraint.call ⟨check, some message⟩).args = [argument, messageObject message] := by
  simp [Constraint.call, h]

theorem Legible.call (hc : c.Legible) : c.call.Legible := by
  cases hc with
  | optional => exact ⟨by decide, by decide, Or.inl rfl⟩
  | @checked check message hcheck hmessage =>
    obtain ⟨argument, hargument, hcomma, hclosing⟩ := hcheck.argument
    refine ⟨check.not_mem_method, ?_, Or.inr ⟨argument, message, args_call hargument, hcomma⟩⟩
    rw [args_call hargument, List.forall_mem_cons, List.forall_mem_singleton]
    exact ⟨hclosing, by simpa [messageObject, Markup.braced] using hmessage⟩

theorem Legible.call_inj (hc : c.Legible) (hd : d.Legible) (h : c.call = d.call) : c = d := by
  obtain ⟨hmethod, hargs⟩ := SchemaCall.mk.inj h
  cases hc with
  | optional =>
    cases hd with
    | optional => rfl
    | checked hcheck _ =>
      obtain ⟨argument, hargument, _⟩ := hcheck.argument
      exact absurd ((args_call hargument).symm.trans hargs.symm) (List.cons_ne_nil _ _)
  | checked hcheck _ =>
    obtain ⟨a, ha, _⟩ := hcheck.argument
    cases hd with
    | optional => exact absurd ((args_call ha).symm.trans hargs) (List.cons_ne_nil _ _)
    | checked hcheck' _ =>
      obtain ⟨b, hb, _⟩ := hcheck'.argument
      have hpair := (args_call ha).symm.trans (hargs.trans (args_call hb))
      simp only [List.cons.injEq, messageObject_inj, and_true] at hpair
      rw [hcheck.call_inj hcheck' (Prod.ext hmethod (by rw [ha, hb, hpair.1])), hpair.2]

theorem Legible.text_inj (hc : c.Legible) (hd : d.Legible) {s t : String}
    (h : c.call.text ++ s = d.call.text ++ t) : c = d ∧ s = t := by
  obtain ⟨hcall, htail⟩ := hc.call.text_inj hd.call h
  exact ⟨hc.call_inj hd hcall, htail⟩

end Constraint

namespace Rule

variable {r q : Rule}

structure Legible (r : Rule) : Prop where
  baseMessage : ∀ message ∈ r.baseMessage, r.base = .binary ∧ ')' ∉ message.toList
  constraints : ∀ c ∈ r.constraints, c.Legible

theorem Legible.head (hr : r.Legible) : r.head.Legible := by
  intro message hmessage
  unfold Rule.head at hmessage
  cases hbase : r.base <;> simp [hbase] at hmessage
  exact (hr.baseMessage message hmessage).2

theorem Legible.head_inj (hr : r.Legible) (hq : q.Legible) (h : r.head = q.head) :
    r.base = q.base ∧ r.baseMessage = q.baseMessage := by
  have hnone {p : Rule} (hp : p.Legible) (hbase : p.base ≠ .binary) : p.baseMessage = none :=
    Option.eq_none_iff_forall_ne_some.mpr fun message hm => hbase (hp.baseMessage message hm).1
  unfold Rule.head at h
  cases hrbase : r.base <;> cases hqbase : q.base <;> simp [hrbase, hqbase] at h ⊢
  case binary.binary => exact h
  all_goals rw [hnone hr (by simp [hrbase]), hnone hq (by simp [hqbase])]

theorem text_expr (r : Rule) :
    r.expr.text = r.head.text ++ String.join (r.constraints.map fun c => c.call.text) := by
  simp [expr, SchemaExpr.text, Function.comp_def]

theorem Legible.text_inj (hr : r.Legible) (hq : q.Legible) (h : r.expr.text = q.expr.text) :
    r = q := by
  rw [text_expr, text_expr] at h
  obtain ⟨hhead, hcalls⟩ := hr.head.text_inj hq.head h
  obtain ⟨hbase, hmessage⟩ := hr.head_inj hq hhead
  have hconstraints : r.constraints = q.constraints :=
    Text.join_inj (fun c => by simp [SchemaCall.text]) (fun hc hd => hc.text_inj hd)
      hr.constraints hq.constraints hcalls
  calc r = ⟨r.base, r.baseMessage, r.constraints⟩ := rfl
    _ = ⟨q.base, q.baseMessage, q.constraints⟩ := by rw [hbase, hmessage, hconstraints]
    _ = q := rfl

end Rule

namespace Constraint

theorem not_mem_counted {before after : String} (n : UInt64) (hbefore : ')' ∉ before.toList)
    (hafter : ')' ∉ after.toList) : ')' ∉ (before ++ toString n ++ after).toList := by
  have hn : ')' ∉ (toString n).toList := Text.not_mem_toString n rfl
  simp [hbefore, hafter, hn]

theorem legible_atLeast (n : UInt64) : (atLeast n).Legible :=
  .checked trivial (not_mem_counted n (by decide) (by decide))

theorem legible_atMost (n : UInt64) : (atMost n).Legible :=
  .checked trivial (not_mem_counted n (by decide) (by decide))

theorem legible_matching (p : Pattern) : (matching p).Legible :=
  .checked trivial (by cases p <;> decide)

theorem legible_passwordSize : passwordSize.Legible :=
  .checked trivial (by decide)

theorem legible_presence {check : Check} (required : Bool) (hcheck : check.IsDiscrete) :
    (presence required check).Legible := by
  cases required with
  | false => exact .optional
  | true => exact .checked hcheck (by decide)

theorem legible_lengths (min max : Option UInt64) : ∀ c ∈ lengths min max, c.Legible := by
  cases min <;> cases max <;> simp [lengths, legible_atLeast, legible_atMost]

end Constraint

namespace Field

variable {f g : Field}

theorem legible_rule (hf : f.kind ≠ .number) : f.rule.Legible := by
  have hplain {base : BaseType} {constraints : List Constraint}
      (h : ∀ c ∈ constraints, c.Legible) :
      Rule.Legible { base := base, constraints := constraints } := ⟨by simp, h⟩
  have hone (required : Bool) : (Constraint.presence required (.minLength 1)).Legible :=
    Constraint.legible_presence required trivial
  have htext (h : f.kind.isTextLike = true) : f.rule.Legible := by
    rw [rule_of_isTextLike h]
    apply hplain
    simp only [List.forall_mem_append, List.forall_mem_singleton, List.forall_mem_map]
    exact ⟨⟨fun p _ => Constraint.legible_matching p, Constraint.legible_lengths _ _⟩, hone _⟩
  cases hk : f.kind with
  | number => exact absurd hk hf
  | text => exact htext (by simp [hk, FieldKind.isTextLike])
  | textarea => exact htext (by simp [hk, FieldKind.isTextLike])
  | password =>
    simp only [rule, hk]
    apply hplain
    rw [List.forall_mem_append, List.forall_mem_cons, List.forall_mem_singleton]
    exact ⟨⟨Constraint.legible_passwordSize, Constraint.legible_lengths _ _⟩, hone _⟩
  | date | select | radio =>
    simp only [rule, hk]
    exact hplain (List.forall_mem_singleton.mpr (hone f.required))
  | checkbox =>
    have htrue : (Constraint.presence true .mustBeTrue).Legible :=
      Constraint.legible_presence true trivial
    simp only [rule, hk]
    apply hplain
    split <;> simp [htrue]
  | checkboxGroup =>
    simp only [rule, hk]
    apply hplain
    split <;> simp [hone]
  | file =>
    simp only [rule, hk]
    split
    · exact ⟨by simp [requiredMessage], by simp⟩
    · exact hplain (List.forall_mem_singleton.mpr .optional)

/-- Two fields have one schema text exactly when they have one rule. Numbers are left out: their
bounds can differ in the sign of zero, which is not printed. -/
theorem schema_text_eq_iff (hf : f.kind ≠ .number) (hg : g.kind ≠ .number) :
    f.rule.expr.text = g.rule.expr.text ↔ f.rule = g.rule :=
  ⟨(legible_rule hf).text_inj (legible_rule hg), fun h => by rw [h]⟩

/-- A least length of one is printed apart from the presence that it amounts to. -/
theorem schema_text_eq_iff_presence :
    let day : Field :=
      { id := "element-1", kind := .date, label := "Day", name := "day", required := true }
    let word : Field :=
      { id := "element-2", kind := .text, label := "Word", name := "word", required := true
        minLength := some 1 }
    (day.kind ≠ .number ∧ word.kind ≠ .number) ∧ day.rule ≠ word.rule ∧
      day.rule.expr.text ≠ word.rule.expr.text := by
  intro day word
  have hrule : day.rule ≠ word.rule := by decide
  have hday : day.kind ≠ .number := by decide
  have hword : word.kind ≠ .number := by decide
  exact ⟨⟨hday, hword⟩, hrule, fun h => hrule ((schema_text_eq_iff hday hword).mp h)⟩

end Field

end FormCompiler
