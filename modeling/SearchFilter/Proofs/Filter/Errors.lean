import SearchFilter.Proofs.Filter.Scanning

/-! # What errors say

The reason of an error fits what stands at its position (`ParseReason.Fits`).  That is read off the
relations of faults, one for each rule of the grammar: each of them says what is left at the fault,
and a filter that nests too deep is the only one that depends on what has been read, namely on how
many parentheses it leaves open (`FilterFault.fits`).  With the reading by positions, of which no
slice breaks, that is all there is to an error (`scan_eq_and_fits`). -/

namespace SearchFilter

/-- What stands where a text is given up for a reason, and how many parentheses are open there. -/
def ParseReason.Fits (depth : Nat) (left : Text) : ParseReason → Prop
  | unexpectedEnd => left = []
  | expectedOpenParen => ∃ c ∈ left.head?, c ≠ '('
  | expectedCloseParen => ∃ c ∈ left.head?, c ≠ ')'
  | missingOperator => ∀ o ∈ ["=", "<=", ">=", "~="].map String.toList, ¬ o <+: left
  | invalidAttribute => ∃ c ∈ left.head?, ¬ NameChar c
  | unescapedNul => left.head? = some '\x00'
  | emptyGroup => ∀ c ∈ left.head?, Text.isBlank c = false ∧ c ≠ '('
  | trailingInput => ∃ c ∈ left.head?, Text.isBlank c = false
  | nestingTooDeep => depth = 256

namespace Filter

/-! ### Faults and their reasons -/

theorem ExpectFault.fits {c : Char} {reason : ParseReason} {x : Fault} {depth : Nat}
    (h : ExpectFault c reason x)
    (hreason : ∀ left : Text, (∃ d ∈ left.head?, d ≠ c) → reason.Fits depth left) :
    x.reason.Fits depth x.rest := by
  cases h with
  | ended => exact rfl
  | other hd => exact hreason _ ⟨_, rfl, hd⟩

theorem ItemFault.fits {s : Text} {x : Fault} (h : ItemFault s x) (depth : Nat) :
    x.reason.Fits depth x.rest := by
  cases h with
  | ended => exact rfl
  | name hc => exact ⟨_, rfl, hc⟩
  | operator _ _ hnone =>
      have hsymbol (o : Operator) : ¬ o.symbol <+: _ := fun ⟨t, ht⟩ => hnone o t ht.symm
      intro o ho
      simp only [List.map_cons, List.map_nil, List.mem_cons, List.not_mem_nil, or_false] at ho
      rcases ho with rfl | rfl | rfl | rfl
      · exact hsymbol .equality
      · exact hsymbol .lessOrEqual
      · exact hsymbol .greaterOrEqual
      · exact hsymbol .approximate
  | value _ => exact rfl

mutual

/-- A reason fits where a filter stops that may nest as deep as the parentheses before it allow. -/
theorem FilterFault.fits {n k : Nat} {s : Text} {x : Fault} (hk : k + n = 256) :
    FilterFault n s x → x.reason.Fits (openAfter k s) x.rest
  | .deep => hk
  | .opening hx => hx.fits fun _ hleft => hleft
  | .body hw hs => by
      rw [List.cons_append, openAfter_open, openAfter_append, openAfter_of_allBlank hw]
      exact hs.fits (by omega)
  | .closing _ _ _ _ hx => hx.fits fun _ hleft => hleft

theorem BodyFault.fits {n k : Nat} {s : Text} {x : Fault} (hk : k + n = 256) :
    BodyFault n s x → x.reason.Fits (openAfter k s) x.rest
  | .list _ hs => by
      rw [openAfter_connective]
      exact hs.fits hk
  | .neg hw hs => by
      rw [List.cons_append, openAfter_cons_of_ne (by decide) (by decide), openAfter_append,
        openAfter_of_allBlank hw]
      exact hs.fits hk
  | .item hs => hs.fits _

theorem ListFault.fits {n k : Nat} {s : Text} {x : Fault} (hk : k + n = 256) :
    ListFault n s x → x.reason.Fits (openAfter k s) x.rest
  | .empty _ hblank hparen => fun c hc => ⟨hblank c hc, ne_of_beq_false (hparen c hc)⟩
  | .member ht hs => by
      rw [openAfter_append, ht.openAfter_eq]
      exact hs.fits hk

end

theorem InputFault.fits {s : Text} {x : Fault} (h : InputFault s x) :
    x.reason.Fits (unclosed s) x.rest := by
  cases h with
  | filter hw hs =>
      rw [unclosed, openAfter_append, openAfter_of_allBlank hw]
      exact hs.fits rfl
  | item _ hs => exact hs.fits _
  | trailing _ _ hc => exact ⟨_, rfl, hc⟩

/-! ### Whole inputs -/

/-- **Errors are well formed, and no character is ever cut.**  Reading by positions never asks for a
slice that begins or ends inside a character or behind the end, and it reads what `parse` reads.
The position of an error is the length of a part of the text up to its trailing blanks; what it
shows are the characters that follow, at most 24 of them, blanks at the end included; and its reason
fits what is left there of the text without these blanks. -/
theorem scan_eq_and_fits (s : Text) :
    scan s ≠ .error .broken ∧ scan s = (parse s).mapError .failed ∧
      ∀ e, parse s = .error e → e.position ≤ s.trimEnd.utf8Length ∧
        ∃ read left, s.trimEnd = read ++ left ∧ s = read ++ (left ++ s.trailingBlanks) ∧
          e.position = read.utf8Length ∧ e.fragment = (left ++ s.trailingBlanks).take 24 ∧
          e.reason.Fits (unclosed read) left := by
  have hscan := scan_eq_mapError_parse s
  refine ⟨?_, hscan, fun e he => ?_⟩
  · rw [hscan]
    cases parse s with
    | ok f => exact fun h => nomatch h
    | error e => exact fun h => nomatch h
  · rw [parse] at he
    split at he
    · cases he
    · rename_i x hx
      obtain ⟨t, ht, hfault⟩ := inputFault_of_error hx
      cases he
      have hposition : (x.toError s).position = t.utf8Length := by
        rw [Fault.toError, ht, Text.utf8Length_append, Nat.add_sub_cancel]
      refine ⟨Nat.sub_le _ _, t, x.rest, ht, ?_, hposition, rfl, hfault.fits⟩
      rw [← List.append_assoc, ← ht, s.trimEnd_append_trailingBlanks]

/-- A parenthesis is missing between two characters of two bytes, behind blanks of two and three
bytes. -/
theorem scan_of_missing_parenthesis :
    let s : Text := "\u3000(|(a=é)\u00a0ß) ".toList
    let e : ParseError := ⟨.expectedCloseParen, 13, "ß) ".toList⟩
    parse s = .error e ∧ scan s = .error (.failed e) ∧ e.position ≤ s.trimEnd.utf8Length ∧
        ∃ read left, s.trimEnd = read ++ left ∧ s = read ++ (left ++ s.trailingBlanks) ∧
          e.position = read.utf8Length ∧ e.fragment = (left ++ s.trailingBlanks).take 24 ∧
          e.reason.Fits (unclosed read) left := by
  intro s e
  have herror : parse s = .error e := by rfl
  obtain ⟨-, hscan, hfits⟩ := scan_eq_and_fits s
  rw [herror] at hscan
  exact ⟨herror, hscan, hfits e herror⟩

end Filter
end SearchFilter
