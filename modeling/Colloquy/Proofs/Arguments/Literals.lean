import Colloquy.Proofs.Arguments.Candidates
import Colloquy.Proofs.DictLiteral.Reader

/-!
# Arguments written as a dict literal

What comes back from the text of a dict is the object it stands for (`read_text`), for all
dicts that hold nothing but what JSON has a form for, and whatever is in their strings.

The text is read in two steps. The first puts the three words into small letters and leaves
the rest alone (`Tree.respelledAs_text`); the text it makes is that of the same tree, with
the words spelled in the other way. The second reads that text (`Tree.reads_text`). Both
follow the tree.
-/

namespace Colloquy.DictLiteral

/-- **A tree that JSON has a form for.** -/
inductive Tree where
  /-- Nothing. -/
  | none
  /-- A truth value. -/
  | bool (value : Bool)
  /-- An integer of sixty-three bits and a sign. -/
  | int (value : Int) (fits : value.natAbs < 2 ^ 63)
  /-- A string. -/
  | str (value : String)
  /-- A list. -/
  | list (items : List Tree)
  /-- A dict, whose entries may be in any order. -/
  | dict (entries : List (String × Tree))

/-- **How the three words are spelled.** -/
structure Spelling where
  /-- Nothing. -/
  null : List Char
  /-- What is so. -/
  yes : List Char
  /-- What is not. -/
  no : List Char

namespace Spelling

/-- With capitals. -/
def capital : Spelling := ⟨"None".toList, "True".toList, "False".toList⟩

/-- In small letters. -/
def small : Spelling := ⟨"null".toList, "true".toList, "false".toList⟩

end Spelling

namespace Tree

/-- **A character inside a string**: four of them are written as escapes. -/
def writeChar (c : Char) : List Char :=
  if c = '\\' then ['\\', '\\']
  else if c = '\'' then ['\\', '\'']
  else if c = '\n' then ['\\', 'n']
  else if c = '\r' then ['\\', 'r']
  else [c]

/-- A string, in single quotes. -/
def stringText (s : String) : List Char :=
  quoted '\'' writeChar s

mutual

/-- **The text of a tree**: items and entries with a comma and a blank between them, and a
colon and a blank behind each key. -/
def text (w : Spelling) : Tree → List Char
  | .none => w.null
  | .bool true => w.yes
  | .bool false => w.no
  | .int i _ => Decimal.integer i
  | .str s => stringText s
  | .list [] => ['[', ']']
  | .list (x :: xs) => '[' :: (text w x ++ itemsText w xs)
  | .dict [] => ['{', '}']
  | .dict ((k, x) :: es) =>
    '{' :: (stringText k ++ ':' :: ([' '] ++ (text w x ++ entriesText w es)))

/-- The further items of a list, up to its closing bracket. -/
def itemsText (w : Spelling) : List Tree → List Char
  | [] => [']']
  | x :: xs => ',' :: ([' '] ++ (text w x ++ itemsText w xs))

/-- The further entries of a dict, up to its closing brace. -/
def entriesText (w : Spelling) : List (String × Tree) → List Char
  | [] => ['}']
  | (k, x) :: es =>
    ',' :: ([' '] ++ (stringText k ++ ':' :: ([' '] ++ (text w x ++ entriesText w es))))

end

mutual

/-- **The JSON value a tree stands for.** A dict stands for the object with its entries as
fields. -/
def toJson : Tree → Json
  | .none => .null
  | .bool b => .bool b
  | .int i fits => .num (.integer i (by omega))
  | .str s => .str s
  | .list xs => .arr (toItems xs)
  | .dict es => .ofFields (toFields es)

/-- The items of a list. -/
def toItems : List Tree → List Json
  | [] => []
  | x :: xs => toJson x :: toItems xs

/-- The entries of a dict, in their order. -/
def toFields : List (String × Tree) → List (String × Json)
  | [] => []
  | (k, x) :: es => (k, toJson x) :: toFields es

end

/-! ## Strings and integers -/

/-- **Strings are written in a way they may be.** -/
theorem quotes_writeChar : Quotes '\'' writeChar where
  isMark := by decide
  writes c := by
    unfold writeChar
    split_ifs with hbackslash hquote hline hreturn
    · subst hbackslash
      exact .escape nofun fun _ => rfl
    · subst hquote
      exact .escape nofun fun _ => rfl
    · subst hline
      exact .escape nofun fun _ => rfl
    · subst hreturn
      exact .escape nofun fun _ => rfl
    · exact .itself hquote hbackslash ⟨hline, hreturn⟩

theorem inRun_of_mem_integer (i : Int) : ∀ c ∈ Decimal.integer i, inRun c = true := by
  have hdigits : ∀ c ∈ Decimal.digits i.natAbs, inRun c = true := (isMagnitude_digits _).oneRun
  unfold Decimal.integer
  split_ifs
  · exact List.forall_mem_cons.mpr ⟨by decide, hdigits⟩
  · exact hdigits

/-- Digits are read as the number that they spell. -/
theorem magnitude_digits (n : Nat) {rest : List Char} (hrest : Ends rest) (negative : Bool) :
    magnitude negative (Decimal.digits n ++ rest) = some (integer negative n, rest) := by
  by_cases hzero : n = 0
  · subst hzero
    rw [Decimal.digits, if_pos (by decide)]
    cases rest with
    | nil => rfl
    | cons c rest => rcases hrest c rfl with rfl | rfl | rfl <;> rfl
  · obtain ⟨c, cs, hcs, hc⟩ := Json.Numeral.exists_digits_eq_cons hzero
    have hdigits : ∀ d ∈ c :: cs, Decimal.isDigit d = true :=
      hcs ▸ Decimal.isDigit_of_mem_digits n
    have hvalue : runValue? negative (c :: cs) = some (integer negative n) := by
      have hall : (!(c :: cs).isEmpty && (c :: cs).all Decimal.isDigit) = true := by
        rw [List.all_eq_true.mpr hdigits]
        rfl
      rw [runValue?, if_pos hall, ← hcs, Decimal.valueOf_digits]
    have hrun := run_append (fun d hd => inRun_of_isDigit (hdigits d hd)) hrest negative
    rw [hcs, List.cons_append, magnitude_of_isDigit (hdigits c List.mem_cons_self) hc,
      ← List.cons_append, hrun, hvalue]
    rfl

/-- **An integer is read.** -/
theorem reads_integer {i : Int} (h : i.natAbs < 2 ^ 63) :
    Reads (Decimal.integer i) (some (toJson (.int i h))) := by
  have hinteger (negative : Bool) (hsign : (if negative then -(i.natAbs : Int) else i.natAbs) = i) :
      integer negative i.natAbs = toJson (.int i h) := by
    have hfits : -0x8000000000000000 ≤ i ∧ i < 0x10000000000000000 := by omega
    rw [integer, hsign, Json.Number.ofInt?, dif_pos hfits]
    rfl
  unfold Decimal.integer
  split_ifs with hneg
  · refine .of_scalar (by decide) (by decide) (by decide) (by decide) (by decide)
      fun rest hrest => ?_
    show magnitude true (Decimal.digits i.natAbs ++ rest) = _
    rw [magnitude_digits _ hrest, hinteger true (by rw [if_pos rfl]; omega)]
    rfl
  · obtain ⟨c, cs, hcs⟩ := List.exists_cons_of_ne_nil (Decimal.digits_ne_nil i.natAbs)
    have hdigit : Decimal.isDigit c = true :=
      Decimal.isDigit_of_mem_digits i.natAbs c (hcs ▸ List.mem_cons_self)
    obtain ⟨hspace, hcomment, hlist, hend, hdict, -⟩ := ne_of_number (.inr (.inl hdigit))
    have hminus : c ≠ '-' := by
      rintro rfl
      exact absurd hdigit (by decide)
    rw [hcs]
    refine .of_scalar hspace hcomment hlist hend hdict fun rest hrest => ?_
    rw [List.cons_append, scalar_of_number (.inr (.inl hdigit)), if_neg hminus, ← List.cons_append,
      ← hcs, magnitude_digits _ hrest, hinteger false (by rw [if_neg nofun]; omega)]
    rfl

/-! ## Respelling -/

theorem apart_itemsText (w : Spelling) (xs : List Tree) (rest : List Char) :
    Apart (itemsText w xs ++ rest) := by
  cases xs <;> exact apart_cons (by decide) _

theorem apart_entriesText (w : Spelling) (es : List (String × Tree)) (rest : List Char) :
    Apart (entriesText w es ++ rest) := by
  cases es <;> exact apart_cons (by decide) _

/-- An entry is respelled in its value only. -/
theorem respelledAs_entry {cs ds cs' ds' : List Char} (k : String) (h : RespelledAs cs ds)
    (h' : RespelledAs cs' ds') (hapart : ∀ rest, Apart rest → Apart (cs' ++ rest)) :
    RespelledAs (stringText k ++ ':' :: ([' '] ++ (cs ++ cs')))
      (stringText k ++ ':' :: ([' '] ++ (ds ++ ds'))) :=
  (quotes_writeChar.respelledAs k).append_cons (by decide) ((h.append h' hapart).cons (by decide))

theorem respelledAs_null : RespelledAs Spelling.capital.null Spelling.small.null := by
  have hword : RespelledAs "None".toList (respell "None".toList) :=
    respelledAs_word (List.all_eq_true.mp (by decide))
  exact hword

theorem respelledAs_yes : RespelledAs Spelling.capital.yes Spelling.small.yes := by
  have hword : RespelledAs "True".toList (respell "True".toList) :=
    respelledAs_word (List.all_eq_true.mp (by decide))
  exact hword

theorem respelledAs_no : RespelledAs Spelling.capital.no Spelling.small.no := by
  have hword : RespelledAs "False".toList (respell "False".toList) :=
    respelledAs_word (List.all_eq_true.mp (by decide))
  exact hword

mutual

/-- **Respelling the text of a tree spells its words in small letters**, and does nothing
else. -/
theorem respelledAs_text (t : Tree) : RespelledAs (t.text .capital) (t.text .small) := by
  cases t with
  | none => exact respelledAs_null
  | bool value =>
    cases value with
    | true => exact respelledAs_yes
    | false => exact respelledAs_no
  | int value fits => exact respelledAs_of_inRun (inRun_of_mem_integer value)
  | str value => exact quotes_writeChar.respelledAs value
  | list items =>
    cases items with
    | nil => exact (respelledAs_nil.cons (by decide)).cons (by decide)
    | cons x xs =>
      have hitems := (respelledAs_text x).append (respelledAs_itemsText xs) fun rest _ =>
        apart_itemsText .capital xs rest
      exact hitems.cons (by decide)
  | dict entries =>
    cases entries with
    | nil => exact (respelledAs_nil.cons (by decide)).cons (by decide)
    | cons e es =>
      have hentries := respelledAs_entry e.1 (respelledAs_text e.2) (respelledAs_entriesText es)
        fun rest _ => apart_entriesText .capital es rest
      exact hentries.cons (by decide)

theorem respelledAs_itemsText (xs : List Tree) :
    RespelledAs (itemsText .capital xs) (itemsText .small xs) := by
  cases xs with
  | nil => exact respelledAs_nil.cons (by decide)
  | cons x xs =>
    have hitems := (respelledAs_text x).append (respelledAs_itemsText xs) fun rest _ =>
      apart_itemsText .capital xs rest
    exact (hitems.cons (by decide)).cons (by decide)

theorem respelledAs_entriesText (es : List (String × Tree)) :
    RespelledAs (entriesText .capital es) (entriesText .small es) := by
  cases es with
  | nil => exact respelledAs_nil.cons (by decide)
  | cons e es =>
    have hentries := respelledAs_entry e.1 (respelledAs_text e.2) (respelledAs_entriesText es)
      fun rest _ => apart_entriesText .capital es rest
    exact (hentries.cons (by decide)).cons (by decide)

end

/-! ## Reading -/

/-- A blank may stand behind a comma or a colon. -/
theorem isSpace_of_mem_blank : ∀ c ∈ [' '], isSpace c = true :=
  List.forall_mem_singleton.mpr (by decide)

mutual

/-- **A tree is read from its text in small letters.** -/
theorem reads_text (t : Tree) : Reads (t.text .small) (some t.toJson) := by
  cases t with
  | none => exact reads_null
  | bool value =>
    cases value with
    | true => exact reads_true
    | false => exact reads_false
  | int value fits => exact reads_integer fits
  | str value => exact quotes_writeChar.reads value
  | list items =>
    cases items with
    | nil => exact readsItems_nil.reads
    | cons x xs => exact (readsItems_itemsText xs (reads_text x)).reads
  | dict entries =>
    cases entries with
    | nil => exact readsFields_nil.reads
    | cons e es => exact (readsFields_entriesText es e.1 (reads_text e.2)).reads

/-- The items of a list are read behind a first one. -/
theorem readsItems_itemsText (xs : List Tree) {cs : List Char} {v : Json}
    (h : Reads cs (some v)) :
    ReadsItems (cs ++ itemsText .small xs) (some (v :: toItems xs)) := by
  cases xs with
  | nil => exact h.readsItems_last
  | cons x xs =>
    have hitems := readsItems_itemsText xs (reads_text x)
    exact h.readsItems_cons (hitems.append isSpace_of_mem_blank)

/-- The entries of a dict are read behind the value of a first one. -/
theorem readsFields_entriesText (es : List (String × Tree)) (k : String) {cs : List Char}
    {v : Json} (h : Reads cs (some v)) :
    ReadsFields (stringText k ++ ':' :: ([' '] ++ (cs ++ entriesText .small es)))
      (some ((k, v) :: toFields es)) := by
  cases es with
  | nil => exact quotes_writeChar.readsFields_last k isSpace_of_mem_blank h
  | cons e es =>
    have hentries := readsFields_entriesText es e.1 (reads_text e.2)
    exact quotes_writeChar.readsFields_cons k isSpace_of_mem_blank h
      (hentries.append isSpace_of_mem_blank)

end

/-- **A tree is read from its text.** -/
theorem readChars_text (t : Tree) :
    readChars (respellWords (t.text .capital)) = some t.toJson := by
  rw [(respelledAs_text t).respellWords_eq]
  exact (reads_text t).readChars

/-- The strict reader does not read a dict literal, unless there is nothing in it. -/
theorem exists_readChars_dict_eq_error (k : String) (x : Tree) (es : List (String × Tree)) :
    ∃ fault, Json.readChars ((dict ((k, x) :: es)).text .capital) = .error fault := by
  rw [text, stringText, quoted, Json.readChars, Json.Reader.readValue,
    Json.Reader.skipSpace_cons (by decide)]
  exact ⟨_, rfl⟩

/-- **Arguments written as a dict literal are what the dict stands for**, whatever keys and
strings there are in it. -/
theorem read_text (entries : List (String × Tree)) :
    (Arguments.read (String.ofList ((dict entries).text .capital))).map Json.obj
      = .ok (dict entries).toJson := by
  have hbrace : ∃ cs, (dict entries).text .capital = '{' :: cs := by
    cases entries <;> exact ⟨_, rfl⟩
  have hobject : Arguments.object? (String.ofList ((dict entries).text .capital))
      = some (Json.Fields.ofList (toFields entries)) := by
    cases entries with
    | nil =>
      have hread : Json.readChars (Json.obj []).print = .ok (.obj []) :=
        Json.readChars_print (.obj nofun) (.obj .nil nofun) (by simp)
      exact Arguments.object?_of_readChars hread
    | cons e es =>
      obtain ⟨fault, hfault⟩ := exists_readChars_dict_eq_error e.1 e.2 es
      rw [Arguments.object?_of_unread hfault, readChars_text]
      rfl
  obtain ⟨cs, hcs⟩ := hbrace
  rw [Arguments.read_of_brace (String.toList_ofList.trans hcs), hobject]
  rfl

end Tree

end Colloquy.DictLiteral
