import Gridbook.Proofs.Formula.Cutting

/-! # Where the tokens of a formula lie

The tokens tile the text they are cut from: the span of each begins at its position, blanks stand
between the spans and nothing is lost or taken twice. A text is cut to its end unless a string in it
is not closed, which the number of its quotes decides.
-/

namespace Gridbook

def Lexeme.isBare : Lexeme → Bool
  | .bare _ => true
  | _ => false

namespace Token

variable {c : Char} {s : List Char} {position : Nat} {token : Token} {tokens : List Token}

/-- Where the span of a token ends, which begins at its position. -/
def finish (token : Token) : Nat :=
  token.position + token.lexeme.written.length

def span (s : List Char) (token : Token) : List Char :=
  s.extract token.position token.finish

def halved : List Char → List Char
  | '"' :: '"' :: rest => '"' :: halved rest
  | c :: rest => c :: halved rest
  | [] => []

@[simp] theorem halved_doubled (content : List Char) : halved (doubled content) = content := by
  induction content with
  | nil => rfl
  | cons c content ih =>
      rw [doubled, List.flatMap_cons, ← doubled]
      split
      case isTrue quote =>
        rw [quote]
        exact congrArg ('"' :: ·) ih
      case isFalse other => simp [halved, other, ih]

/-- The text from a position on is covered by tokens with blanks between them, down to the end of
the formula. No two bare texts stand side by side. -/
inductive Tiles : Nat → List Char → List Token → Prop where
  | stop {position : Nat} {gap : List Char} (blank : ∀ d ∈ gap, Text.isBlank d = true) :
      Tiles position gap [⟨.stop, position + gap.length⟩]
  | token {position : Nat} {gap rest : List Char} {lexeme : Lexeme} {tokens : List Token}
      (blank : ∀ d ∈ gap, Text.isBlank d = true) (inside : lexeme ≠ .stop)
      (filled : lexeme.written ≠ [])
      (apart : ∀ next ∈ tokens.head?, lexeme.isBare = true → next.lexeme.isBare = false)
      (later : Tiles (position + gap.length + lexeme.written.length) rest tokens) :
      Tiles position (gap ++ (lexeme.written ++ rest)) (⟨lexeme, position + gap.length⟩ :: tokens)

namespace Tiles

theorem pad {gap : List Char} (blank : ∀ d ∈ gap, Text.isBlank d = true)
    (tiles : Tiles (position + gap.length) s tokens) : Tiles position (gap ++ s) tokens := by
  cases tiles with
  | stop blank' =>
      have both : Tiles position (gap ++ s) [⟨.stop, position + (gap ++ s).length⟩] :=
        .stop (List.forall_mem_append.mpr ⟨blank, blank'⟩)
      rwa [List.length_append, ← Nat.add_assoc] at both
  | @token _ gap' rest lexeme tokens blank' inside filled apart later =>
      rw [Nat.add_assoc position, ← List.length_append] at later ⊢
      rw [← List.append_assoc]
      exact .token (List.forall_mem_append.mpr ⟨blank, blank'⟩) inside filled apart later

theorem ends (tiles : Tiles position s tokens) :
    ∃ front, tokens = front ++ [⟨.stop, position + s.length⟩] ∧
      ∀ token ∈ front, token.lexeme ≠ .stop := by
  induction tiles with
  | stop blank => exact ⟨[], rfl, List.forall_mem_nil _⟩
  | @token position gap rest lexeme tokens blank inside filled apart later ih =>
      obtain ⟨front, rfl, each⟩ := ih
      refine ⟨⟨lexeme, position + gap.length⟩ :: front, ?_, List.forall_mem_cons.mpr ⟨inside, each⟩⟩
      simp only [List.length_append, Nat.add_assoc, List.cons_append]

theorem le_position (tiles : Tiles position s tokens) (among : token ∈ tokens) :
    position ≤ token.position := by
  induction tiles with
  | stop blank =>
      obtain rfl := List.mem_singleton.mp among
      exact Nat.le_add_right _ _
  | token blank inside filled apart later ih =>
      rcases List.mem_cons.mp among with rfl | among
      · exact Nat.le_add_right _ _
      · have behind := ih among
        omega

/-- Each token ends before the next begins, and takes at least one character. -/
theorem increasing (tiles : Tiles position s tokens) :
    tokens.Pairwise fun first second =>
      first.position < second.position ∧ first.finish ≤ second.position := by
  induction tiles with
  | stop blank => exact List.pairwise_singleton _ _
  | token blank inside filled apart later ih =>
      refine List.pairwise_cons.mpr ⟨fun second among => ?_, ih⟩
      have behind := later.le_position among
      have width := List.length_pos_iff.mpr filled
      simp only [finish]
      omega

theorem blank_of_outside (tiles : Tiles position s tokens) {i : Nat} (here : s[i]? = some c)
    (outside : ∀ token ∈ tokens, position + i < token.position ∨ token.finish ≤ position + i) :
    Text.isBlank c = true := by
  induction tiles generalizing i with
  | stop blank => exact blank c (List.mem_of_getElem? here)
  | @token position gap rest lexeme tokens blank inside filled apart later ih =>
      rw [List.forall_mem_cons] at outside
      obtain ⟨before | behind, others⟩ := outside
      · rw [List.getElem?_append_left (by simp only at before; omega)] at here
        exact blank c (List.mem_of_getElem? here)
      · simp only [finish] at behind
        rw [List.getElem?_append_right (by omega), List.getElem?_append_right (by omega)] at here
        -- the same character, counted from where the rest begins
        have same : position + gap.length + lexeme.written.length +
          (i - gap.length - lexeme.written.length) = position + i := by omega
        apply ih here
        intro token among
        rw [same]
        exact others token among

theorem exists_before (tiles : Tiles position s tokens) (among : token ∈ tokens) :
    ∃ before after, s = before ++ (token.lexeme.written ++ after) ∧
      token.position = position + before.length := by
  induction tiles with
  | @stop position gap blank =>
      obtain rfl := List.mem_singleton.mp among
      exact ⟨gap, [], by simp [Lexeme.written, Lexeme.text], rfl⟩
  | @token position gap rest lexeme tokens blank inside filled apart later ih =>
      rcases List.mem_cons.mp among with rfl | among
      · exact ⟨gap, rest, rfl, rfl⟩
      · obtain ⟨before, after, rfl, place⟩ := ih among
        refine ⟨gap ++ (lexeme.written ++ before), after, by simp, ?_⟩
        rw [place, List.length_append, List.length_append]
        omega

theorem span_eq (tiles : Tiles 0 s tokens) (among : token ∈ tokens) :
    token.span s = token.lexeme.written := by
  obtain ⟨before, after, rfl, place⟩ := tiles.exists_before among
  rw [Nat.zero_add] at place
  simp [span, finish, place]

theorem apart (tiles : Tiles position s tokens) : tokens.IsChain fun first second =>
    first.lexeme.isBare = true → second.lexeme.isBare = false := by
  induction tiles with
  | stop blank => exact .singleton _
  | token blank inside filled apart later ih => exact List.isChain_cons.mpr ⟨apart, ih⟩

end Tiles

theorem not_isBare_of_endsBare (ends : endsBare s = true) (done : cut position s = .ok tokens)
    (first : token ∈ tokens.head?) : token.lexeme.isBare = false := by
  obtain ⟨rfl, stop⟩ | ⟨c, rest, rfl, blank, -⟩ | ⟨content, -, stopped⟩ |
    ⟨lexeme, gap, rest, rfl, off, step⟩ := cut_cases position s
  · cases done.symm.trans stop
    obtain rfl := Option.mem_some_iff.mp first
    rfl
  · have goes : endsBare (c :: rest) = false := by
      refine endsBare_eq_false (not_mem_reserved_of_isBlank blank) ?_
      rintro rfl
      cases blank
    cases goes.symm.trans ends
  · cases done.symm.trans stopped
  · obtain ⟨behind, -, done⟩ := bind_ok_iff.mp (step.symm.trans done)
    cases done
    obtain rfl := Option.mem_some_iff.mp first
    cases lexeme with
    | bare content =>
        have goes := (off.bare content rfl).2.1
        cases goes.symm.trans ends
    | _ => rfl

/-- Cutting tiles a text with an even number of quotes, and stops in any other at the last string,
which is not closed. -/
theorem cut_outcome (position : Nat) (s : List Char) :
    (Even (s.count '"') ∧ ∃ tokens, cut position s = .ok tokens ∧ Tiles position s tokens) ∨
    ∃ before content, s = before ++ '"' :: doubled content ∧ Even (before.count '"') ∧
      cut position s = .error (.unterminatedString (position + before.length)) := by
  induction position, s using cut_induct with
  | stop position done => exact .inl ⟨⟨0, rfl⟩, _, done, .stop (List.forall_mem_nil _)⟩
  | blank position c rest isBlank step ih =>
      have plain : c ≠ '"' := by
        rintro rfl
        cases isBlank
      rw [step]
      obtain ⟨even, tokens, done, tiles⟩ | ⟨before, content, rfl, even, stopped⟩ := ih
      · refine .inl ⟨by rwa [List.count_cons_of_ne plain], tokens, done, ?_⟩
        exact tiles.pad (List.forall_mem_singleton.mpr isBlank)
      · refine .inr ⟨c :: before, content, rfl, by rwa [List.count_cons_of_ne plain], ?_⟩
        rw [stopped, List.length_cons, Nat.add_assoc, Nat.add_comm 1]
  | unclosed position content stopped => exact .inr ⟨[], content, rfl, ⟨0, rfl⟩, stopped⟩
  | token position lexeme gap rest off step ih =>
      have noQuote : gap.count '"' = 0 := List.count_eq_zero.mpr fun among => by
        cases off.blank '"' among
      have paired (more : List Char) (even : Even (more.count '"')) :
          Even ((lexeme.written ++ (gap ++ more)).count '"') := by
        rw [List.count_append, List.count_append, noQuote, Nat.zero_add]
        exact off.paired.add even
      obtain ⟨even, tokens, done, tiles⟩ | ⟨before, content, rfl, even, stopped⟩ := ih
      · refine .inl ⟨paired rest even, ⟨lexeme, position⟩ :: tokens, by rw [step, done]; rfl, ?_⟩
        rw [← Nat.add_assoc] at tiles
        refine .token (List.forall_mem_nil _) off.inside off.filled ?_ (tiles.pad off.blank)
        intro next first bare
        cases lexeme with
        | bare name => exact not_isBare_of_endsBare (off.bare name rfl).2.2 done first
        | _ => cases bare
      · refine .inr ⟨lexeme.written ++ (gap ++ before), content, by simp, paired before even, ?_⟩
        rw [step, stopped]
        simp only [List.length_append, Nat.add_assoc]
        rfl

/-- How the tokens of a text lie in it. -/
structure LaidOut (s : List Char) (tokens : List Token) : Prop where
  /-- The end of the formula is the last token, and no other. -/
  ends : ∃ front, tokens = front ++ [⟨.stop, s.length⟩] ∧ ∀ token ∈ front, token.lexeme ≠ .stop
  /-- The spans do not overlap, and they stand in the order of the tokens. -/
  increasing : tokens.Pairwise fun first second =>
    first.position < second.position ∧ first.finish ≤ second.position
  /-- What is in no span is blank. -/
  blanks : ∀ i c, s[i]? = some c →
    (∀ token ∈ tokens, ¬ (token.position ≤ i ∧ i < token.finish)) → Text.isBlank c = true
  /-- The text of a token is its span, unless it is a string. -/
  texts : ∀ token ∈ tokens, (∀ content, token.lexeme ≠ .string content) →
    token.lexeme.text.toList = token.span s
  /-- A string is its span without the outer quotes, where each quote is doubled, with these
  halved. -/
  strings : ∀ token ∈ tokens, ∀ content, token.lexeme = .string content →
    ∃ inner, token.span s = '"' :: (inner ++ ['"']) ∧ content.toList = halved inner ∧
      inner = doubled content.toList
  /-- No two bare texts stand side by side. -/
  apart : tokens.IsChain fun first second =>
    first.lexeme.isBare = true → second.lexeme.isBare = false

theorem Tiles.laidOut (tiles : Tiles 0 s tokens) : LaidOut s tokens where
  ends := by
    have ends := tiles.ends
    rwa [Nat.zero_add] at ends
  increasing := tiles.increasing
  blanks i c here outside := by
    apply tiles.blank_of_outside here
    intro token among
    have apart := outside token among
    omega
  texts token among plain := by
    rw [tiles.span_eq among]
    unfold Lexeme.written
    split
    case h_1 content same => exact absurd same (plain content)
    case h_2 => rfl
  strings token among content same := by
    refine ⟨doubled content.toList, ?_, (halved_doubled _).symm, rfl⟩
    rw [tiles.span_eq among, same, Lexeme.written]
  apart := tiles.apart

/-- A formula cannot be cut into tokens exactly if the number of its quotes is odd: its last string,
before which the quotes are paired, is not closed. The tokens of any other lie in it one behind the
other, and between them are only blanks. -/
theorem ofFormula_laidOut (formula : String) :
    ((∃ fault, ofFormula formula = .error fault) ↔ Odd (formula.toList.count '"')) ∧
    (∀ fault, ofFormula formula = .error fault →
      ∃ before content, formula.toList = before ++ '"' :: doubled content ∧
        Even (before.count '"') ∧ fault = .unterminatedString before.length) ∧
    (¬ Odd (formula.toList.count '"') →
      ∃ tokens, ofFormula formula = .ok tokens ∧ LaidOut formula.toList tokens) := by
  rw [ofFormula]
  obtain ⟨even, tokens, done, tiles⟩ | ⟨before, content, shape, even, stopped⟩ :=
    cut_outcome 0 formula.toList
  · rw [done]
    refine ⟨?_, nofun, fun _ => ⟨tokens, rfl, tiles.laidOut⟩⟩
    constructor
    · rintro ⟨fault, stopped⟩
      cases stopped
    · exact fun odd => absurd even (Nat.not_even_iff_odd.mpr odd)
  · have odd : Odd (formula.toList.count '"') := by
      rw [shape, List.count_append, List.count_cons_self, ← Nat.add_assoc]
      exact (even.add (even_count_doubled content)).add_one
    rw [stopped]
    refine ⟨⟨fun _ => odd, fun _ => ⟨_, rfl⟩⟩, ?_, fun even => absurd odd even⟩
    intro fault same
    cases same
    exact ⟨before, content, shape, even, by rw [Nat.zero_add]⟩

/-- A quote in a string is doubled, bare text goes on over a blank inside it, and an empty string
may end the text. -/
theorem greeting_laidOut :
    ¬ Odd ("CONCAT(\"say \"\"hi\"\"\", Unit Price ) != \"\"".toList.count '"') ∧
    LaidOut "CONCAT(\"say \"\"hi\"\"\", Unit Price ) != \"\"".toList
      [⟨.bare "CONCAT", 0⟩, ⟨.openParen, 6⟩, ⟨.string "say \"hi\"", 7⟩, ⟨.comma, 19⟩,
        ⟨.bare "Unit Price", 21⟩, ⟨.closeParen, 32⟩, ⟨.operator .bangEqual, 34⟩, ⟨.string "", 37⟩,
        ⟨.stop, 39⟩] := by
  refine ⟨by decide +kernel, ?_⟩
  obtain ⟨tokens, done, laidOut⟩ :=
    (ofFormula_laidOut "CONCAT(\"say \"\"hi\"\"\", Unit Price ) != \"\"").2.2 (by decide +kernel)
  convert laidOut using 1
  exact Except.ok.inj (.trans (by decide +kernel) done)

end Token

end Gridbook
