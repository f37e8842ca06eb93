import FormCompiler.Proofs.PrintedNumbers
import FormCompiler.Proofs.SchemaTexts

/-! Messages as string literals. A message is put between single quotes as it is, so the code around
it is safe as long as nothing in the message ends the literal early or takes its closing quote away.
The literals of a printed schema are then exactly the messages of its rule. -/

namespace FormCompiler

namespace Text

/-- Where one reader of texts or another ends a line. -/
def lineBreaks : List Char := ['\n', '\x0b', '\x0c', '\r', '\u0085', '\u2028', '\u2029']

/-- Characters that do not stand for themselves between single quotes. -/
def literalMarks : List Char := '\'' :: '\\' :: lineBreaks

def IsPlain (s : String) : Prop := Avoids literalMarks s

instance (s : String) : Decidable (IsPlain s) := inferInstanceAs (Decidable (Avoids literalMarks s))

end Text

open Text

/-! ## The literals of a piece of code -/

/-- Where a reader of code stands. Within a literal it knows what it has read of it. -/
inductive Scan
  | code
  | quoted (shown : List Char)
  | escaped (shown : List Char)

/-- The single-quoted literals that are still to come, each as it is written. There is no answer
where a literal is not closed on its line or one of another kind begins. -/
def Scan.literals? : Scan → List Char → Option (List String)
  | code, [] => some []
  | quoted _, [] => none
  | escaped _, [] => none
  | code, c :: cs =>
    if c = '\'' then (quoted []).literals? cs
    else if c = '"' ∨ c = '\x60' then none
    else code.literals? cs
  | quoted shown, c :: cs =>
    if c = '\'' then (code.literals? cs).map (String.ofList shown :: ·)
    else if c = '\\' then (escaped (shown ++ [c])).literals? cs
    else if c ∈ lineBreaks then none
    else (quoted (shown ++ [c])).literals? cs
  | escaped shown, c :: cs => (quoted (shown ++ [c])).literals? cs

def literals? (code : String) : Option (List String) := Scan.code.literals? code.toList

/-- Whatever code follows, the literals come in front of those of the rest. -/
def Shows (code : String) (literals : List String) : Prop :=
  ∀ rest, Scan.code.literals? (code.toList ++ rest) = (Scan.code.literals? rest).map (literals ++ ·)

section

variable {s t m : String} {ls ms : List String}

theorem Shows.literals? (h : Shows s ls) : literals? s = some ls := by
  have hend : Scan.code.literals? [] = some [] := rfl
  simpa [FormCompiler.literals?, hend] using h []

theorem Shows.append (hs : Shows s ls) (ht : Shows t ms) : Shows (s ++ t) (ls ++ ms) := by
  intro rest
  calc Scan.code.literals? ((s ++ t).toList ++ rest)
      = Scan.code.literals? (s.toList ++ (t.toList ++ rest)) := by
        rw [String.toList_append, List.append_assoc]
    _ = ((Scan.code.literals? rest).map (ms ++ ·)).map (ls ++ ·) := by rw [hs, ht]
    _ = (Scan.code.literals? rest).map (ls ++ ms ++ ·) := by
        simp [Function.comp_def]

def quotes : List Char := ['\'', '"', '\x60']

theorem shows_of_avoids (h : Avoids quotes s) : Shows s [] := by
  intro rest
  have hall : ∀ c ∈ s.toList, c ≠ '\'' ∧ ¬ (c = '"' ∨ c = '\x60') := by
    intro c hc
    have hne {d : Char} (hd : d ∈ quotes) : c ≠ d := fun heq => h d hd (heq ▸ hc)
    exact ⟨hne (by decide), not_or.mpr ⟨hne (by decide), hne (by decide)⟩⟩
  simp only [List.nil_append, Option.map_id_fun', id]
  generalize s.toList = cs at hall
  induction cs with
  | nil => rfl
  | cons c cs ih =>
    rw [List.forall_mem_cons] at hall
    rw [List.cons_append, Scan.literals?, if_neg hall.1.1, if_neg hall.1.2, ih hall.2]

/-- What has been read of a literal grows with each character up to the quote that ends it. -/
theorem literals?_quoted {cs : List Char} (h : ∀ c ∈ cs, c ∉ literalMarks)
    (shown rest : List Char) :
    (Scan.quoted shown).literals? (cs ++ '\'' :: rest) =
      (Scan.code.literals? rest).map (String.ofList (shown ++ cs) :: ·) := by
  induction cs generalizing shown with
  | nil => simp [Scan.literals?]
  | cons c cs ih =>
    rw [List.forall_mem_cons] at h
    obtain ⟨hquote, hescape, hline⟩ : c ≠ '\'' ∧ c ≠ '\\' ∧ c ∉ lineBreaks := by
      simpa only [literalMarks, List.mem_cons, not_or] using h.1
    rw [List.cons_append, Scan.literals?, if_neg hquote, if_neg hescape, if_neg hline, ih h.2,
      List.append_assoc, List.singleton_append]

theorem shows_quoted (hm : IsPlain m) : Shows ("'" ++ m ++ "'") [m] := by
  intro rest
  have hplain : ∀ c ∈ m.toList, c ∉ literalMarks := fun c hc hd => hm c hd hc
  have hopen : ("'" ++ m ++ "'").toList ++ rest = '\'' :: (m.toList ++ '\'' :: rest) := by simp
  rw [hopen, Scan.literals?, if_pos rfl, literals?_quoted hplain]
  simp

theorem shows_messageObject (hm : IsPlain m) : Shows (messageObject m) [m] := by
  have hparts : messageObject m = "\x7b message: " ++ ("'" ++ m ++ "'") ++ " \x7d" := by
    simp [messageObject, Markup.braced, ← String.toList_inj]
  rw [hparts]
  exact ((shows_of_avoids (by decide)).append (shows_quoted hm)).append (shows_of_avoids (by decide))

/-- A quote of its own would end a message early. -/
example : literals? (messageObject "It's required") = none := by decide

theorem shows_join {α : Type} {text : α → String} {shown : α → List String} {as : List α}
    (h : ∀ a ∈ as, Shows (text a) (shown a)) :
    Shows (String.join (as.map text)) (as.flatMap shown) := by
  induction as with
  | nil => exact shows_of_avoids (by simp [Avoids])
  | cons a as ih =>
    rw [List.forall_mem_cons] at h
    rw [List.map_cons, String.join_cons, List.flatMap_cons]
    exact h.1.append (ih h.2)

end

/-! ## Printed rules -/

namespace Check

theorem avoids_method (c : Check) : Avoids quotes c.call.1 := by
  cases c <;> simp [call, Avoids, quotes]

theorem call_argument (c : Check) :
    c.call.2 = [] ∨ ∃ argument, c.call.2 = [argument] ∧ Avoids quotes argument := by
  cases c with
  | minLength n | maxLength n => exact Or.inr ⟨_, rfl, avoids_toString n (by decide)⟩
  | min x | max x => exact Or.inr ⟨_, rfl, x.avoids_literal quotes (by decide) (by decide)⟩
  | pattern p => exact Or.inr ⟨_, rfl, by cases p <;> decide⟩
  | mustBeTrue => exact Or.inr ⟨_, rfl, by decide⟩
  | optional => exact Or.inl rfl

end Check

theorem Constraint.shows_args {c : Constraint} (h : ∀ m ∈ c.message, IsPlain m) :
    Shows (", ".intercalate c.call.args) c.message.toList := by
  obtain ⟨check, message⟩ := c
  simp only [Constraint.call]
  cases message with
  | none =>
    rcases check.call_argument with hnone | ⟨argument, hone, havoids⟩
    · rw [hnone]
      exact shows_of_avoids (by decide)
    · rw [hone]
      exact shows_of_avoids (by simpa using havoids)
  | some m =>
    have hmessage := shows_messageObject (h m rfl)
    rcases check.call_argument with hnone | ⟨argument, hone, havoids⟩
    · rw [hnone]
      simpa using hmessage
    · rw [hone]
      have hfront : Shows (argument ++ ", ") [] :=
        (shows_of_avoids havoids).append (shows_of_avoids (by decide))
      simpa [String.intercalate_cons_cons] using hfront.append hmessage

theorem Constraint.shows_call {c : Constraint} (h : ∀ m ∈ c.message, IsPlain m) :
    Shows c.call.text c.message.toList := by
  have hfront : Avoids quotes ("." ++ c.call.method ++ "(") :=
    ((by decide : Avoids quotes ".").append c.check.avoids_method).append (by decide)
  have hall := ((shows_of_avoids hfront).append (shows_args h)).append
    (shows_of_avoids (by decide : Avoids quotes ")"))
  simpa [SchemaCall.text] using hall

namespace Rule

variable {r : Rule}

def messages (r : Rule) : List String :=
  r.baseMessage.toList ++ r.constraints.flatMap fun c => c.message.toList

theorem shows_head (hbase : ∀ m ∈ r.baseMessage, r.base = .binary ∧ IsPlain m) :
    Shows r.head.text r.baseMessage.toList := by
  cases hm : r.baseMessage with
  | none =>
    apply shows_of_avoids
    cases hb : r.base <;> simp only [head, hb, hm] <;> decide
  | some m =>
    obtain ⟨hb, hplain⟩ := hbase m hm
    have hfront : Avoids quotes "z.instanceof(File, " := by decide
    have hend : Avoids quotes ")" := by decide
    have hhead : r.head = .file (some m) := by rw [head, hb, ← hm]
    have htext : r.head.text = "z.instanceof(File, " ++ messageObject m ++ ")" := by
      rw [hhead]
      rfl
    rw [htext]
    exact ((shows_of_avoids hfront).append (shows_messageObject hplain)).append
      (shows_of_avoids hend)

/-- The literals of a printed rule are its messages in their order. -/
theorem shows_text (hbase : ∀ m ∈ r.baseMessage, r.base = .binary)
    (h : ∀ m ∈ r.messages, IsPlain m) : Shows r.expr.text r.messages := by
  simp only [messages, List.forall_mem_append] at h
  rw [text_expr]
  refine (shows_head fun m hm => ⟨hbase m hm, h.1 m (Option.mem_toList.mpr hm)⟩).append ?_
  refine shows_join fun c hc => Constraint.shows_call fun m hm => ?_
  exact h.2 m (List.mem_flatMap.mpr ⟨c, hc, Option.mem_toList.mpr hm⟩)

end Rule

end FormCompiler
