import Harvest.Proofs.Filter.Lexeme
import Mathlib.Data.List.DropRight

/-!
Tokens cover their text. A text that splits into tokens is their lexemes with blanks around them,
each token starts where its lexeme does, and the lexeme on its own is the same token. Where a text
does not split, the fault stands at one of its characters.
-/

namespace Harvest.Filter

open Result (bind_eq_ok bind_eq_error mapError_eq_ok)

/-- The text between two byte offsets. -/
def textBetween (source : String) (start stop : Nat) : String :=
  String.Pos.Raw.extract source ⟨start⟩ ⟨stop⟩

/-- The text between two offsets is what stands there. -/
theorem textBetween_of_split {source : String} {before between after : List Char}
    (split : source.toList = before ++ between ++ after) :
    textBetween source (byteLength before) (byteLength before + byteLength between) =
      String.ofList between := by
  rw [textBetween, ← String.ofList_toList (s := source), split, byteLength_eq_utf8Len,
    byteLength_eq_utf8Len]
  exact String.extract_of_valid before between after

/-- A text without the blanks at its end. -/
def withoutTrailingBlanks (text : String) : String :=
  String.ofList (text.toList.rdropWhile isBlank)

/-- The lexemes of tokens as they are written: each goes up to the next token, without the blanks
before that one. -/
def writtenLexemes (source : String) : List Token → List String
  | first :: second :: rest =>
    withoutTrailingBlanks (textBetween source first.offset second.offset) ::
      writtenLexemes source (second :: rest)
  | _ => []

/-- A text is some pieces with blanks before, between and behind them. -/
inductive Spaced : List String → List Char → Prop where
  | blanks {characters : List Char} :
      (∀ character ∈ characters, isBlank character = true) → Spaced [] characters
  | piece {piece : String} {pieces : List String} {blanks rest : List Char} :
      (∀ character ∈ blanks, isBlank character = true) → Spaced pieces rest →
      Spaced (piece :: pieces) (blanks ++ piece.toList ++ rest)

/-- How the tokens of a text lie in it. -/
structure Covers (source : String) (tokens : List Token) : Prop where
  ascending : tokens.Pairwise fun first second => first.offset < second.offset
  boundaries : ∀ token ∈ tokens, String.Pos.Raw.IsValid source ⟨token.offset⟩
  ends : tokens.getLast? = some ⟨.finish, source.utf8ByteSize⟩
  spaced : Spaced (writtenLexemes source tokens) source.toList
  alone : List.Forall₂
    (fun token lexeme =>
      tokenize lexeme = .ok [⟨token.lexeme, 0⟩, ⟨.finish, lexeme.utf8ByteSize⟩])
    tokens.dropLast (writtenLexemes source tokens)

/-- A lexeme with its characters and the blanks behind them. -/
structure Piece where
  lexeme : Lexeme
  head : Char
  tail : List Char
  blanks : List Char
  solid : isBlank head = false
  written : lexeme.WrittenAs head tail
  apart : ∀ character ∈ blanks, isBlank character = true

namespace Piece

/-- The characters of a lexeme and of the blanks behind it. -/
def characters (piece : Piece) : List Char :=
  piece.head :: piece.tail ++ piece.blanks

/-- The text of a lexeme. -/
def text (piece : Piece) : String :=
  String.ofList (piece.head :: piece.tail)

/-- The characters of pieces in a row. -/
def row (pieces : List Piece) : List Char :=
  pieces.flatMap characters

/-- The tokens of pieces in a row that starts at an offset. -/
def tokens (offset : Nat) : List Piece → List Token
  | [] => [⟨.finish, offset⟩]
  | piece :: rest => ⟨piece.lexeme, offset⟩ :: tokens (offset + byteLength piece.characters) rest

theorem row_cons (piece : Piece) (rest : List Piece) :
    row (piece :: rest) = piece.characters ++ row rest :=
  List.flatMap_cons

variable {offset : Nat} {pieces : List Piece}

/-- Every token starts behind some pieces. -/
theorem exists_split_of_mem {token : Token} (inside : token ∈ tokens offset pieces) :
    ∃ before after, row pieces = before ++ after ∧ token.offset = offset + byteLength before := by
  induction pieces generalizing offset with
  | nil =>
      obtain rfl := List.mem_singleton.1 inside
      exact ⟨[], [], rfl, rfl⟩
  | cons piece rest ih =>
      rcases List.mem_cons.1 inside with rfl | later
      · exact ⟨[], _, rfl, rfl⟩
      · obtain ⟨before, after, split, place⟩ := ih later
        refine ⟨piece.characters ++ before, after, ?_, ?_⟩
        · rw [row_cons, split, List.append_assoc]
        · rw [place, byteLength_append, Nat.add_assoc]

theorem byteLength_characters_pos (piece : Piece) : 0 < byteLength piece.characters :=
  Nat.add_pos_left piece.head.utf8Size_pos _

/-- Every lexeme takes a byte at least, so tokens are in ascending order. -/
theorem ascending_tokens :
    (tokens offset pieces).Pairwise fun first second => first.offset < second.offset := by
  induction pieces generalizing offset with
  | nil => exact List.pairwise_singleton _ _
  | cons piece rest ih =>
      refine List.pairwise_cons.2 ⟨fun token later => ?_, ih⟩
      obtain ⟨before, -, -, place⟩ := exists_split_of_mem later
      have positive := piece.byteLength_characters_pos
      dsimp only
      omega

theorem getLast?_tokens :
    (tokens offset pieces).getLast? = some ⟨.finish, offset + byteLength (row pieces)⟩ := by
  induction pieces generalizing offset with
  | nil => rfl
  | cons piece rest ih =>
      rw [tokens, List.getLast?_cons, ih, row_cons, byteLength_append, ← Nat.add_assoc]
      rfl

/-- The blanks behind a lexeme are no part of it. -/
theorem withoutTrailingBlanks_characters (piece : Piece) :
    withoutTrailingBlanks (String.ofList piece.characters) = piece.text := by
  have blanks : ∀ character ∈ piece.blanks.reverse, isBlank character = true := by
    simpa using piece.apart
  have ends : ∀ next ∈ (piece.head :: piece.tail).reverse.head?, isBlank next = false := by
    rw [List.head?_reverse]
    exact piece.written.solid
  rw [withoutTrailingBlanks, String.toList_ofList, characters, List.rdropWhile,
    List.reverse_append, dropWhile_run_append blanks ends, List.reverse_reverse, text]

/-- The first token starts where the row does. -/
theorem exists_tokens_eq_cons (offset : Nat) (pieces : List Piece) :
    ∃ first others, tokens offset pieces = first :: others ∧ first.offset = offset := by
  cases pieces <;> exact ⟨_, _, rfl, rfl⟩

/-- The lexemes of pieces in a row are their texts, wherever the row stands in a source. -/
theorem writtenLexemes_tokens {source : String} {before : List Char}
    (split : source.toList = before ++ row pieces) :
    writtenLexemes source (tokens (byteLength before) pieces) = pieces.map text := by
  induction pieces generalizing before with
  | nil => rfl
  | cons piece rest ih =>
      rw [row_cons, ← List.append_assoc] at split
      have later := ih split
      have between := textBetween_of_split split
      rw [byteLength_append] at later
      obtain ⟨next, others, same, place⟩ :=
        exists_tokens_eq_cons (byteLength before + byteLength piece.characters) rest
      rw [same] at later
      rw [tokens, same, writtenLexemes, place, between, withoutTrailingBlanks_characters, later,
        List.map_cons]

/-- Pieces in a row are spaced by their blanks, with others before the first of them. -/
theorem spaced_row {lead : List Char} (blank : ∀ character ∈ lead, isBlank character = true) :
    Spaced (pieces.map text) (lead ++ row pieces) := by
  induction pieces generalizing lead with
  | nil =>
      rw [row, List.flatMap_nil, List.append_nil]
      exact .blanks blank
  | cons piece rest ih =>
      have spaced : Spaced (piece.text :: _) _ := .piece blank (ih piece.apart)
      rw [text, String.toList_ofList] at spaced
      simpa [row_cons, characters, text] using spaced

/-- The text of a lexeme splits into its token. -/
theorem tokenize_text (piece : Piece) :
    tokenize piece.text = .ok [⟨piece.lexeme, 0⟩, ⟨.finish, piece.text.utf8ByteSize⟩] := by
  have split : tokensFrom 0 (piece.head :: piece.tail ++ []) = .ok _ :=
    tokensFrom_lexeme piece.tail piece.solid (by simpa using piece.written.found 0)
      (tokensFrom_nil _)
  rw [List.append_nil, Nat.zero_add, byteLength_eq_utf8Len] at split
  rw [tokenize, text, String.toList_ofList, split, String.utf8ByteSize_ofList]
  rfl

theorem dropLast_tokens :
    List.Forall₂ (fun token lexeme =>
      tokenize lexeme = .ok [⟨token.lexeme, 0⟩, ⟨.finish, lexeme.utf8ByteSize⟩])
      (tokens offset pieces).dropLast (pieces.map text) := by
  induction pieces generalizing offset with
  | nil => exact .nil
  | cons piece rest ih =>
      obtain ⟨next, others, same, -⟩ :=
        exists_tokens_eq_cons (offset + byteLength piece.characters) rest
      have later := @ih (offset + byteLength piece.characters)
      rw [same] at later
      rw [tokens, same, List.dropLast_cons_cons, List.map_cons]
      exact .cons piece.tokenize_text later

end Piece

section Split

variable {offset : Nat} {characters : List Char}

/-- A blank takes one byte. -/
theorem byteLength_blank {head : Char} (blank : isBlank head = true) (rest : List Char) :
    byteLength (head :: rest) = 1 + byteLength rest := by
  have single : head.utf8Size = 1 := by
    simp only [isBlank, Bool.or_eq_true, beq_iff_eq] at blank
    rcases blank with (((rfl | rfl) | rfl) | rfl) | rfl <;> rfl
  rw [byteLength, single]

/-- A text that splits is blanks and a row of pieces, and its tokens are theirs. -/
theorem tokensFrom_eq_ok {tokens : List Token} (split : tokensFrom offset characters = .ok tokens) :
    ∃ lead pieces, (∀ character ∈ lead, isBlank character = true) ∧
      characters = lead ++ Piece.row pieces ∧
      tokens = Piece.tokens (offset + byteLength lead) pieces := by
  induction offset, characters using tokensFrom.induct generalizing tokens with
  | case1 offset =>
      rw [tokensFrom_nil] at split
      cases split
      exact ⟨[], [], by simp, rfl, rfl⟩
  | case2 offset head rest blank ih =>
      rw [tokensFrom_blank offset blank] at split
      obtain ⟨lead, pieces, blanks, rfl, rfl⟩ := ih split
      refine ⟨head :: lead, pieces, List.forall_mem_cons.2 ⟨blank, blanks⟩, rfl, ?_⟩
      rw [byteLength_blank blank, Nat.add_assoc]
  | case3 offset head rest solid ih =>
      rw [tokensFrom, if_neg solid] at split
      obtain ⟨⟨lexeme, width⟩, found, following⟩ := bind_eq_ok.1 split
      obtain ⟨later, splitLater, finished⟩ := bind_eq_ok.1 following
      cases finished
      obtain ⟨tail, behind, rfl, rfl, written⟩ := lexemeAt_ok found
      obtain ⟨lead, pieces, blanks, same, rfl⟩ := ih _ splitLater
      rw [Nat.add_sub_cancel, List.drop_left] at same
      let piece : Piece := ⟨lexeme, head, tail, lead, by simpa using solid, written, blanks⟩
      refine ⟨[], piece :: pieces, by simp, ?_, ?_⟩
      · rw [same, Piece.row_cons, List.nil_append, Piece.characters, List.cons_append,
          List.cons_append, List.append_assoc]
      · have whole : byteLength piece.characters =
            byteLength (head :: tail) + byteLength lead := byteLength_append _ _
        rw [Piece.tokens, whole, List.take_succ_cons, List.take_left, byteLength, Nat.add_zero,
          Nat.add_assoc]

/-- Where a text does not split, the fault stands at one of its characters. -/
theorem tokensFrom_eq_error {fault : Fault} (failed : tokensFrom offset characters = .error fault) :
    ∃ before after found, characters = before ++ after ∧ after ≠ [] ∧
      fault = .atOffset (offset + byteLength before) found := by
  induction offset, characters using tokensFrom.induct with
  | case1 offset =>
      rw [tokensFrom_nil] at failed
      contradiction
  | case2 offset head rest blank ih =>
      rw [tokensFrom_blank offset blank] at failed
      obtain ⟨before, after, found, rfl, nonempty, rfl⟩ := ih failed
      refine ⟨head :: before, after, found, rfl, nonempty, ?_⟩
      rw [byteLength_blank blank, Nat.add_assoc]
  | case3 offset head rest solid ih =>
      rw [tokensFrom, if_neg solid] at failed
      rcases bind_eq_error.1 failed with missing | ⟨⟨lexeme, width⟩, found, following⟩
      · exact lexemeAt_error missing
      · rcases bind_eq_error.1 following with later | ⟨_, _, finished⟩
        · obtain ⟨tail, behind, rfl, rfl, -⟩ := lexemeAt_ok found
          obtain ⟨before, after, cause, same, nonempty, rfl⟩ := ih _ later
          rw [Nat.add_sub_cancel, List.drop_left] at same
          refine ⟨head :: tail ++ before, after, cause, ?_, nonempty, ?_⟩
          · rw [same, List.cons_append, List.cons_append, List.append_assoc]
          · rw [byteLength_append, List.take_succ_cons, List.take_left, Nat.add_assoc]
        · contradiction

/-- The end of some first characters of a text is a boundary of it. -/
theorem isValid_of_split {source : String} {before after : List Char}
    (split : source.toList = before ++ after) :
    String.Pos.Raw.IsValid source ⟨byteLength before⟩ := by
  refine String.Pos.Raw.isValid_iff_exists_append.2 ⟨.ofList before, .ofList after, ?_, ?_⟩
  · rw [← String.ofList_append, ← split, String.ofList_toList]
  · rw [byteLength_eq_utf8Len, ← String.utf8ByteSize_ofList]
    rfl

/-- Blanks and a row of pieces are covered by the tokens of the row. -/
theorem covers_of_row {source : String} {lead : List Char} {pieces : List Piece}
    (blanks : ∀ character ∈ lead, isBlank character = true)
    (split : source.toList = lead ++ Piece.row pieces) :
    Covers source (Piece.tokens (byteLength lead) pieces) where
  ascending := Piece.ascending_tokens
  boundaries token inside := by
    obtain ⟨before, after, same, place⟩ := Piece.exists_split_of_mem inside
    rw [place, ← byteLength_append]
    rw [same, ← List.append_assoc] at split
    exact isValid_of_split split
  ends := by
    rw [Piece.getLast?_tokens, ← byteLength_append, ← split, byteLength_toList]
  spaced := by
    rw [Piece.writtenLexemes_tokens split, split]
    exact Piece.spaced_row blanks
  alone := by
    rw [Piece.writtenLexemes_tokens split]
    exact Piece.dropLast_tokens

end Split

/-- A text of any characters splits into tokens that cover it, or there is a fault at one of its
characters. Tokens lie in ascending order at boundaries between characters, up to the end at the
length of the text; between them lie their lexemes, with blanks around, and each lexeme splits into
its token alone. -/
theorem tokens_cover_their_text (source : String) :
    (∃ tokens, tokenize source = .ok tokens ∧ Covers source tokens) ∨
      ∃ offset fault, tokenize source = .error (.syntaxFault source offset fault) ∧
        String.Pos.Raw.IsValid source ⟨offset⟩ ∧ offset < source.utf8ByteSize := by
  unfold tokenize
  cases result : tokensFrom 0 source.toList with
  | ok tokens =>
      obtain ⟨lead, pieces, blanks, split, rfl⟩ := tokensFrom_eq_ok result
      rw [Nat.zero_add]
      exact .inl ⟨_, rfl, covers_of_row blanks split⟩
  | error fault =>
      obtain ⟨before, after, found, split, nonempty, rfl⟩ := tokensFrom_eq_error result
      rw [Nat.zero_add]
      refine .inr ⟨_, found, rfl, isValid_of_split split, ?_⟩
      obtain ⟨next, rest, rfl⟩ := List.exists_cons_of_ne_nil nonempty
      have positive := next.utf8Size_pos
      rw [← byteLength_toList, split, byteLength_append, byteLength]
      omega

end Harvest.Filter
