import SearchFilter.Proofs.Filter.Parsing

/-! # Readers as sequences

A reader takes up what the one before it has left (`andThen`), and all readers of filters but the
one of lists are sequences of smaller ones.  So a property that passes to sequences holds of them as
soon as it holds of the smallest ones and of lists. -/

namespace SearchFilter.Filter

variable {α β : Type}

abbrev Reader (α : Type) := Text → Except Fault (α × Text)

/-- One reader after another one. -/
def andThen (read : Reader α) (next : α → Reader β) : Reader β := fun s =>
  read s >>= fun p => next p.1 p.2

/-- Reads nothing. -/
def give (a : α) : Reader α := fun s => .ok (a, s)

def readBlanks : Reader Unit := fun s => .ok ((), Text.trimStart s)

def readChar (c : Char) (reason : ParseReason) : Reader Unit := fun s =>
  (expect c reason s).map fun rest => ((), rest)

def readName : Reader Text := fun s =>
  if (s.takeWhile isNameChar).isEmpty then
    .error ⟨if s.isEmpty then .unexpectedEnd else .invalidAttribute, s⟩
  else .ok (s.takeWhile isNameChar, s.dropWhile isNameChar)

def readEnd : Reader Unit
  | [] => .ok ((), [])
  | s => .error ⟨.trailingInput, s⟩

theorem readItem_eq_andThen :
    readItem = andThen readName fun name => andThen readBlanks fun _ =>
      andThen readOperator fun o => andThen readValue fun v => give (.comparison ⟨name, o, v⟩) := by
  funext s
  unfold readItem andThen readName
  dsimp only
  split
  · rfl
  · rfl

theorem readMany_cons_eq_andThen (read : FilterReader) (b : Char) (budget s : Text) :
    readMany read (b :: budget) ('(' :: s) = andThen read (fun f => andThen readBlanks fun _ =>
      andThen (readMany read budget) fun fs => give (f :: fs)) ('(' :: s) :=
  readMany_cons b budget s

theorem readGroup_eq_andThen (read : FilterReader) (kind : Connective) (s : Text) :
    readGroup read kind s = andThen readBlanks (fun _ => andThen (readMany read s) fun fs =>
      if fs.isEmpty then fun rest => .error ⟨.emptyGroup, rest⟩ else give (.group kind fs)) s := by
  dsimp only [readGroup, andThen, readBlanks, bind, Except.bind]
  cases readMany read s (Text.trimStart s) with
  | error x => rfl
  | ok p =>
      obtain ⟨fs, rest⟩ := p
      cases fs with
      | nil => rfl
      | cons f fs => rfl

theorem readBody_of_ne {c : Char} (hand : c ≠ '&') (hor : c ≠ '|') (hnot : c ≠ '!')
    (read : FilterReader) (s : Text) : readBody read (c :: s) = readItem (c :: s) := by
  unfold readBody
  split
  · rename_i heq
    exact (hand (List.cons.inj heq).1).elim
  · rename_i heq
    exact (hor (List.cons.inj heq).1).elim
  · rename_i heq
    exact (hnot (List.cons.inj heq).1).elim
  · rfl

theorem readFilter_succ_eq_andThen (n : Nat) :
    readFilter (n + 1) = andThen (readChar '(' .expectedOpenParen) fun _ =>
      andThen readBlanks fun _ => andThen (readBody (readFilter n)) fun f =>
        andThen readBlanks fun _ => andThen (readChar ')' .expectedCloseParen) fun _ =>
          give f := by
  funext s
  dsimp only [readFilter, andThen, readChar, readBlanks, give, bind, Except.bind, Except.map]
  cases expect '(' .expectedOpenParen s with
  | error x => rfl
  | ok r =>
      dsimp only
      cases readBody (readFilter n) (Text.trimStart r) with
      | error x => rfl
      | ok p =>
          dsimp only
          cases expect ')' .expectedCloseParen (Text.trimStart p.2) with
          | error x => rfl
          | ok r => rfl

theorem readOuter_of_ne {c : Char} (hc : c ≠ '(') (s : Text) :
    readOuter (c :: s) = readItem (c :: s) := by
  unfold readOuter
  split
  · rename_i heq
    cases heq
  · rename_i heq
    exact (hc (List.cons.inj heq).1).elim
  · rfl

theorem readAll_eq_andThen (s : Text) :
    (readAll s).map (fun f => (f, [])) = andThen readBlanks (fun _ => andThen readOuter fun f =>
      andThen readBlanks fun _ => andThen readEnd fun _ => give f) s := by
  dsimp only [readAll, andThen, readBlanks, give, bind, Except.bind]
  cases readOuter (Text.trimStart s) with
  | error x => rfl
  | ok p =>
      dsimp only
      cases Text.trimStart p.2 with
      | nil => rfl
      | cons c r => rfl

end SearchFilter.Filter
