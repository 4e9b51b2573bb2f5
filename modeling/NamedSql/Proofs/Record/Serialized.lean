import NamedSql.Proofs.Record.Objects

/-!
# The text of a record

A record is written as the text of an object that has a member for every column, in the order of the
columns, also where columns have one name. A reader of such texts is given here, and it finds in the
text of an object the names of its members and the texts of their values. So nothing of a record is
lost or moved when it is written, whatever characters its names and its values have.

The object of a record is another one: it has each name once. It is what becomes of the written
members if they are put in one after the other.

## Scope

The reader takes the text of a value as it stands, from the colon to the comma behind it. It knows
the escapes of JSON but for pairs of surrogates, which are never written.

## Main definitions

* `Json.Place`, `Json.Place.after` — where a reader stands, and where it gets to over a character
* `Json.pieces` — the parts of a text between the commas that separate members
* `Json.unquote?` — the text behind a double quote, and what stands behind its end
* `Json.readMembers?` — the members of a written object

## Main results

* `Json.readMembers?_chars` — reading what was written
* `Record.written_members` — the members that are written, and the object that they make
-/

namespace NamedSql

namespace Json

/-! ### Separating members -/

/-- How a reader takes the next character: as it stands, or as a part of a text between quotes. -/
inductive Mode where
  | plain
  /-- Inside of double quotes. -/
  | quoted
  /-- Behind a backslash inside of double quotes. -/
  | escaped
deriving DecidableEq

/-- Where a reader stands: how many brackets are open, and how it takes the next character. -/
structure Place where
  depth : Nat
  mode : Mode
deriving DecidableEq

/-- Where a member of the object that is read starts or ends. -/
def Place.top : Place := ⟨0, .plain⟩

/-- Where a reader gets to over a character. Brackets count outside of quotes only. -/
def Place.after (p : Place) (c : Char) : Place :=
  match p.mode with
  | .escaped => ⟨p.depth, .quoted⟩
  | .quoted =>
    if c = '"' then ⟨p.depth, .plain⟩ else if c = '\\' then ⟨p.depth, .escaped⟩ else p
  | .plain =>
    if c = '"' then ⟨p.depth, .quoted⟩
    else if c = '[' ∨ c = '\x7b' then ⟨p.depth + 1, .plain⟩
    else if c = ']' ∨ c = '\x7d' then ⟨p.depth - 1, .plain⟩
    else p

/-- The parts of a text between the commas outside of brackets and quotes, from a place on. -/
def pieces (p : Place) : List Char → List (List Char)
  | [] => [[]]
  | c :: r =>
    if c = ',' ∧ p = .top then [] :: pieces p r
    else (pieces (p.after c) r).modifyHead (c :: ·)

/-- Over some text the reader gets from one place to another without meeting the end of a member. -/
def Passes (p : Place) (w : List Char) (q : Place) : Prop :=
  ∀ rest, pieces p (w ++ rest) = (pieces q rest).modifyHead (w ++ ·)

section

variable {p q : Place} {v w : List Char} {c : Char}

theorem passes_nil (p : Place) : Passes p [] p := by
  intro rest
  cases hr : pieces p rest with
  | nil => exact hr
  | cons l ls => exact hr

theorem Passes.append {m : Place} (hv : Passes p v m) (hw : Passes m w q) :
    Passes p (v ++ w) q := by
  intro rest
  rw [List.append_assoc, hv, hw]
  cases pieces q rest with
  | nil => rfl
  | cons l ls => simp only [List.modifyHead_cons, List.append_assoc]

theorem passes_char (p : Place) (h : c ≠ ',' ∨ p ≠ .top) : Passes p [c] (p.after c) := by
  intro rest
  have hn : ¬(c = ',' ∧ p = .top) := fun hc => h.elim (· hc.1) (· hc.2)
  rw [List.singleton_append, pieces, if_neg hn]
  rfl

theorem Passes.cons (h : c ≠ ',' ∨ p ≠ .top) (hw : Passes (p.after c) w q) :
    Passes p (c :: w) q :=
  (passes_char p h).append hw

/-- What starts at the top and ends there is one piece, up to the comma behind it. -/
theorem pieces_of_passes (h : Passes .top w .top) : pieces .top w = [w] := by
  have hn := h []
  rw [List.append_nil] at hn
  rw [hn, pieces, List.modifyHead_cons, List.append_nil]

theorem pieces_cons_of_passes (h : Passes .top w .top) (rest : List Char) :
    pieces .top (w ++ ',' :: rest) = w :: pieces .top rest := by
  rw [h, pieces, if_pos ⟨rfl, rfl⟩, List.modifyHead_cons, List.append_nil]

end

/-! ### Texts between quotes -/

/-- The value of a hexadecimal digit. -/
def hexValue? (c : Char) : Option Nat := "0123456789abcdef".toList.idxOf? c.toLower

/-- The character of four hexadecimal digits. -/
def hexChar? (a b c d : Char) : Option Char := do
  let n := (((← hexValue? a) * 16 + (← hexValue? b)) * 16 + (← hexValue? c)) * 16 + (← hexValue? d)
  if n.isValidChar then some (Char.ofNat n) else none

/-- The character that is meant by another one behind a backslash, for the escapes of one letter. -/
def unescape? (c : Char) : Option Char :=
  if c = '"' ∨ c = '\\' ∨ c = '/' then some c
  else if c = 'b' then some '\x08'
  else if c = 'f' then some '\x0c'
  else if c = 'n' then some '\n'
  else if c = 'r' then some '\r'
  else if c = 't' then some '\t'
  else none

/-- Puts a character before a text that has been read, if there is one. -/
def before? (c : Option Char) (read : Option (List Char × List Char)) :
    Option (List Char × List Char) := do
  let (s, rest) ← read
  return ((← c) :: s, rest)

/-- The text up to the next double quote, and what stands behind it. -/
def unquote? : List Char → Option (List Char × List Char)
  | [] => none
  | '"' :: rest => some ([], rest)
  | '\\' :: 'u' :: a :: b :: c :: d :: rest => before? (hexChar? a b c d) (unquote? rest)
  | '\\' :: c :: rest => before? (unescape? c) (unquote? rest)
  | c :: rest => before? (some c) (unquote? rest)

/-- The name of a written member, and the text of its value. -/
def readMember? : List Char → Option (String × List Char)
  | '"' :: written =>
    match unquote? written with
    | some (name, ':' :: value) => some (String.ofList name, value)
    | _ => none
  | _ => none

/-- The members of a written object: their names, and the texts of their values. -/
def readMembers? : List Char → Option (List (String × List Char))
  | '\x7b' :: written =>
    if written.getLast? = some '\x7d' then
      match written.dropLast with
      | [] => some []
      | c :: body => (pieces .top (c :: body)).mapM readMember?
    else none
  | _ => none

/-! ### What is written between quotes -/

/-- A character between quotes is written in one of four ways. -/
theorem escaped_cases (c : Char) :
    (∃ d, escaped c = ['\\', d] ∧ unescape? d = some c ∧ d ≠ 'u') ∨
      (∃ n < 32, c = Char.ofNat n ∧ escaped c = ['\\', 'u', '0', '0'] ++ twoHex n) ∨
      escaped c = [c] ∧ c ≠ '"' ∧ c ≠ '\\' := by
  rw [escaped]
  split
  · rename_i h
    exact Or.inl ⟨'"', rfl, by rw [h]; rfl, by decide⟩
  split
  · rename_i h
    exact Or.inl ⟨'\\', rfl, by rw [h]; rfl, by decide⟩
  split
  · rename_i h
    exact Or.inl ⟨'b', rfl, h ▸ rfl, by decide⟩
  split
  · rename_i h
    exact Or.inl ⟨'f', rfl, h ▸ rfl, by decide⟩
  split
  · rename_i h
    exact Or.inl ⟨'n', rfl, h ▸ rfl, by decide⟩
  split
  · rename_i h
    exact Or.inl ⟨'r', rfl, h ▸ rfl, by decide⟩
  split
  · rename_i h
    exact Or.inl ⟨'t', rfl, h ▸ rfl, by decide⟩
  split
  · rename_i h
    exact Or.inr (Or.inl ⟨c.toNat, h, (Char.ofNat_toNat c).symm, rfl⟩)
  · exact Or.inr (Or.inr ⟨rfl, by assumption, by assumption⟩)

theorem hexChar?_twoHex : ∀ n < 32,
    hexChar? '0' '0' (Nat.digitChar (n / 16)) (Nat.digitChar (n % 16)) = some (Char.ofNat n) := by
  decide

theorem unquote?_escaped (c : Char) (rest : List Char) :
    unquote? (escaped c ++ rest) = before? (some c) (unquote? rest) := by
  rcases escaped_cases c with ⟨d, he, hd, hu⟩ | ⟨n, hn, rfl, he⟩ | ⟨he, hq, hb⟩
  · rw [he, List.cons_append, List.singleton_append, unquote?.eq_4 _ _ fun _ _ _ _ _ h _ => hu h,
      hd]
  · rw [he, twoHex, ← hexChar?_twoHex n hn]
    rfl
  · rw [he, List.singleton_append, unquote?.eq_5 _ _ hq (fun _ _ _ _ _ h => absurd h hb)
      fun _ _ h => absurd h hb]

/-- What is read of a written text is the text. -/
theorem unquote?_flatMap_escaped (s rest : List Char) :
    unquote? (s.flatMap escaped ++ '"' :: rest) = some (s, rest) := by
  induction s with
  | nil => rw [List.flatMap_nil, List.nil_append, unquote?.eq_2]
  | cons c s ih =>
    rw [List.flatMap_cons, List.append_assoc, unquote?_escaped, ih]
    rfl

theorem passes_escaped (depth : Nat) (c : Char) :
    Passes ⟨depth, .quoted⟩ (escaped c) ⟨depth, .quoted⟩ := by
  have hq : (⟨depth, .quoted⟩ : Place) ≠ .top := fun h => nomatch h
  have he : (⟨depth, .escaped⟩ : Place) ≠ .top := fun h => nomatch h
  have hplain : ∀ d, d ≠ '"' → d ≠ '\\' → Passes ⟨depth, .quoted⟩ [d] ⟨depth, .quoted⟩ := by
    intro d h h'
    have hp := passes_char (c := d) ⟨depth, .quoted⟩ (Or.inr hq)
    rwa [Place.after, if_neg h, if_neg h'] at hp
  have hback : ∀ d, Passes ⟨depth, .quoted⟩ ['\\', d] ⟨depth, .quoted⟩ := fun d =>
    .cons (Or.inr hq) (passes_char ⟨depth, .escaped⟩ (Or.inr he))
  rcases escaped_cases c with ⟨d, h, -, -⟩ | ⟨n, hn, -, h⟩ | ⟨h, hq', hb⟩
  · rw [h]
    exact hback d
  · have hd : ∀ n < 32, (twoHex n).all (fun d => d != '"' && d != '\\') = true := by decide
    have hall : ∀ w : List Char, (∀ d ∈ w, d ≠ '"' ∧ d ≠ '\\') →
        Passes ⟨depth, .quoted⟩ w ⟨depth, .quoted⟩ := by
      intro w hw
      induction w with
      | nil => exact passes_nil _
      | cons d w ih =>
        obtain ⟨hd, hw⟩ := List.forall_mem_cons.mp hw
        exact (hplain d hd.1 hd.2).append (ih hw)
    rw [h]
    refine (hback 'u').append (hall ('0' :: '0' :: twoHex n) ?_)
    refine List.forall_mem_cons.mpr ⟨by decide, List.forall_mem_cons.mpr ⟨by decide, ?_⟩⟩
    intro d hm
    have hp := List.all_eq_true.mp (hd n hn) d hm
    rwa [Bool.and_eq_true, bne_iff_ne, bne_iff_ne] at hp
  · rw [h]
    exact hplain c hq' hb

theorem passes_renderText (depth : Nat) (s : String) :
    Passes ⟨depth, .plain⟩ (renderText s) ⟨depth, .plain⟩ := by
  have hq : (⟨depth, .quoted⟩ : Place) ≠ .top := fun h => nomatch h
  have hs : ∀ w : List Char, Passes ⟨depth, .quoted⟩ (w.flatMap escaped) ⟨depth, .quoted⟩ := by
    intro w
    induction w with
    | nil => exact passes_nil _
    | cons c w ih =>
      rw [List.flatMap_cons]
      exact (passes_escaped depth c).append ih
  exact .cons (Or.inl (by decide)) ((hs s.toList).append (passes_char _ (Or.inr hq)))

/-! ### What is written of a value -/

/-- A character that is nothing to a reader outside of quotes: it opens, closes and separates
nothing. -/
def IsBare (c : Char) : Prop := c ∉ ['"', ',', '[', ']', '\x7b', '\x7d']

instance : DecidablePred IsBare := fun c => inferInstanceAs (Decidable (c ∉ _))

/-- Where a text is given, its characters are looked at one by one. -/
theorem isBare_of_all {w : List Char} (h : (w.all fun c => decide (IsBare c)) = true) :
    ∀ c ∈ w, IsBare c := fun c hc => of_decide_eq_true (List.all_eq_true.mp h c hc)

theorem passes_of_isBare {w : List Char} (h : ∀ c ∈ w, IsBare c) (depth : Nat) :
    Passes ⟨depth, .plain⟩ w ⟨depth, .plain⟩ := by
  induction w with
  | nil => exact passes_nil _
  | cons c w ih =>
    obtain ⟨hc, hw⟩ := List.forall_mem_cons.mp h
    simp only [IsBare, List.mem_cons, List.not_mem_nil, or_false, not_or] at hc
    obtain ⟨hq, hcomma, ho, hc, ho', hc'⟩ := hc
    refine .cons (Or.inl hcomma) ?_
    rw [Place.after]
    dsimp only
    rw [if_neg hq, if_neg (not_or.mpr ⟨ho, ho'⟩), if_neg (not_or.mpr ⟨hc, hc'⟩)]
    exact ih hw

theorem isBare_of_isDigit {c : Char} (h : c.isDigit = true) : IsBare c := by
  intro hm
  simp only [List.mem_cons, List.not_mem_nil, or_false] at hm
  rcases hm with rfl | rfl | rfl | rfl | rfl | rfl
  all_goals exact absurd h (by decide)

theorem isBare_toDigits (n : Nat) : ∀ c ∈ Nat.toDigits 10 n, IsBare c := fun _ h =>
  isBare_of_isDigit (Nat.isDigit_of_mem_toDigits (by decide) (by decide) h)

theorem isBare_replicate {c : Char} (h : IsBare c) (n : Nat) : ∀ d ∈ List.replicate n c, IsBare d :=
  fun d hd => by rwa [List.eq_of_mem_replicate hd]

theorem isBare_positional {digits : List Char} (h : ∀ c ∈ digits, IsBare c) (point : Int) :
    ∀ c ∈ NumberStyle.positional digits point, IsBare c := by
  have hz := fun n => isBare_replicate (c := '0') (by decide) n
  rw [NumberStyle.positional]
  split
  · exact List.forall_mem_cons.mpr ⟨by decide, List.forall_mem_cons.mpr ⟨by decide,
      List.forall_mem_append.mpr ⟨hz _, h⟩⟩⟩
  split
  · exact List.forall_mem_append.mpr ⟨fun c hc => h c (List.mem_of_mem_take hc),
      List.forall_mem_cons.mpr ⟨by decide, fun c hc => h c (List.mem_of_mem_drop hc)⟩⟩
  · exact List.forall_mem_append.mpr ⟨List.forall_mem_append.mpr ⟨h, hz _⟩,
      isBare_of_all (by decide)⟩

theorem isBare_scientific (style : NumberStyle) {digits : List Char} (h : ∀ c ∈ digits, IsBare c)
    (exponent : Int) : ∀ c ∈ style.scientific digits exponent, IsBare c := by
  have hz := fun n => isBare_replicate (c := '0') (by decide) n
  unfold NumberStyle.scientific
  refine List.forall_mem_append.mpr ⟨?_, List.forall_mem_cons.mpr ⟨by decide,
    List.forall_mem_append.mpr ⟨?_, List.forall_mem_append.mpr ⟨hz _, isBare_toDigits _⟩⟩⟩⟩
  · split
    · exact h
    · split
      · exact List.forall_mem_cons.mpr ⟨h _ List.mem_cons_self, isBare_of_all (by decide)⟩
      · exact h
    · obtain ⟨hd, hr⟩ := List.forall_mem_cons.mp h
      exact List.forall_mem_cons.mpr ⟨hd, List.forall_mem_cons.mpr ⟨by decide, hr⟩⟩
  · split
    · exact isBare_of_all (by decide)
    · split
      · exact isBare_of_all (by decide)
      · exact isBare_of_all (by decide)

theorem isBare_layout (style : NumberStyle) (d : Decimal) : ∀ c ∈ style.layout d, IsBare c := by
  rw [NumberStyle.layout]
  split
  · exact isBare_of_all (by decide)
  split
  · exact isBare_positional (isBare_toDigits d.digits) _
  · exact isBare_scientific style (isBare_toDigits d.digits) _

theorem isBare_renderReal (x : Binary64) : ∀ c ∈ renderReal x, IsBare c := by
  rw [renderReal]
  split
  · exact List.forall_mem_cons.mpr ⟨by decide, isBare_layout _ _⟩
  · exact isBare_layout _ _

theorem isBare_toString (n : Int) : ∀ c ∈ (toString n).toList, IsBare c := by
  rw [Int.toString_eq_repr, Int.repr_eq_if]
  split
  · rw [Nat.toList_repr]
    exact isBare_toDigits _
  · rw [String.toList_append, Nat.toList_repr]
    exact List.forall_mem_append.mpr ⟨isBare_of_all (by decide), isBare_toDigits _⟩

mutual

theorem passes_chars (depth : Nat) : (j : Json) → Passes ⟨depth, .plain⟩ j.chars ⟨depth, .plain⟩
  | .null => passes_of_isBare (isBare_of_all (by decide)) depth
  | .bool true => passes_of_isBare (isBare_of_all (by decide)) depth
  | .bool false => passes_of_isBare (isBare_of_all (by decide)) depth
  | .integer n => passes_of_isBare (isBare_toString n) depth
  | .real x => passes_of_isBare (isBare_renderReal x) depth
  | .text s => passes_renderText depth s
  | .array items => .cons (Or.inl (by decide))
      ((passes_charsOfItems depth items).append (passes_char ⟨depth + 1, .plain⟩ (Or.inr nofun)))
  | .object ms => .cons (Or.inl (by decide))
      ((passes_charsOfMembers depth ms).append (passes_char ⟨depth + 1, .plain⟩ (Or.inr nofun)))

theorem passes_charsOfItems (depth : Nat) : (items : List Json) →
    Passes ⟨depth + 1, .plain⟩ (charsOfItems items) ⟨depth + 1, .plain⟩
  | [] => passes_nil _
  | [j] => passes_chars (depth + 1) j
  | j :: k :: rest => (passes_chars (depth + 1) j).append
      (.cons (Or.inr nofun) (passes_charsOfItems depth (k :: rest)))

theorem passes_charsOfMembers (depth : Nat) : (ms : List (String × Json)) →
    Passes ⟨depth + 1, .plain⟩ (charsOfMembers ms) ⟨depth + 1, .plain⟩
  | [] => passes_nil _
  | [(name, j)] => (passes_renderText (depth + 1) name).append
      (.cons (Or.inl (by decide)) (passes_chars (depth + 1) j))
  | (name, j) :: m :: rest => (passes_renderText (depth + 1) name).append
      (.cons (Or.inl (by decide)) ((passes_chars (depth + 1) j).append
        (.cons (Or.inr nofun) (passes_charsOfMembers depth (m :: rest)))))

end

/-! ### Reading what was written -/

/-- What is written of a member: its name between quotes, a colon, and its value. -/
def memberChars (m : String × Json) : List Char := renderText m.1 ++ ':' :: m.2.chars

theorem readMember?_memberChars (m : String × Json) :
    readMember? (memberChars m) = some (m.1, m.2.chars) := by
  have hu : unquote? (m.1.toList.flatMap escaped ++ ['"'] ++ ':' :: m.2.chars) =
      some (m.1.toList, ':' :: m.2.chars) := by
    rw [List.append_assoc]
    exact unquote?_flatMap_escaped m.1.toList (':' :: m.2.chars)
  rw [memberChars, renderText, List.cons_append, readMember?, hu]
  exact congrArg (fun name => some (name, m.2.chars)) String.ofList_toList

theorem passes_memberChars (m : String × Json) : Passes .top (memberChars m) .top :=
  (passes_renderText 0 m.1).append (.cons (Or.inl (by decide)) (passes_chars 0 m.2))

/-- The members of an object are written apart. -/
theorem pieces_charsOfMembers {ms : List (String × Json)} (h : ms ≠ []) :
    pieces .top (charsOfMembers ms) = ms.map memberChars := by
  induction ms with
  | nil => exact absurd rfl h
  | cons m ms ih =>
    cases ms with
    | nil => exact pieces_of_passes (passes_memberChars m)
    | cons n ms =>
      have hw : charsOfMembers (m :: n :: ms) =
          memberChars m ++ ',' :: charsOfMembers (n :: ms) := by
        rw [memberChars, List.append_assoc, charsOfMembers]
        rfl
      rw [hw, pieces_cons_of_passes (passes_memberChars m), ih (List.cons_ne_nil n ms)]
      rfl

theorem charsOfMembers_ne_nil {ms : List (String × Json)} (h : ms ≠ []) :
    charsOfMembers ms ≠ [] := by
  intro hn
  have hp := pieces_charsOfMembers h
  rw [hn] at hp
  cases ms with
  | nil => exact h rfl
  | cons m ms => cases (List.cons.inj hp).1

/-- **What is read of a written object are its members**, in order and however many have one name:
their names, and the texts of their values. -/
theorem readMembers?_chars (ms : List (String × Json)) :
    readMembers? (Json.object ms).chars = some (ms.map fun m => (m.1, m.2.chars)) := by
  rw [chars, readMembers?, if_pos List.getLast?_concat, List.dropLast_concat]
  by_cases hm : ms = []
  · rw [hm]
    rfl
  · obtain ⟨c, body, hc⟩ := List.exists_cons_of_ne_nil (charsOfMembers_ne_nil hm)
    rw [hc]
    dsimp only
    rw [← hc, pieces_charsOfMembers hm, List.mapM_map]
    have hs : ∀ ms : List (String × Json), ms.mapM (fun m => readMember? (memberChars m)) =
        some (ms.map fun m => (m.1, m.2.chars)) := by
      intro ms
      induction ms with
      | nil => rfl
      | cons m ms ih =>
        rw [List.mapM_cons, ih, readMember?_memberChars]
        rfl
    exact hs ms

end Json

namespace Record

open Json

/-- **What is written of a record, and what becomes of it as an object.** The written text has one
member for every entry of the record, in the order of the entries, with the text of the JSON form of
its value. The object of the record is what these members come to if they are put in one after the
other: its own members are in order, and under each name is the last one of that name. -/
theorem written_members (r : Record) :
    readMembers? r.serialized.toList =
        some (r.entries.map fun e => (e.1, e.2.toJson.chars)) ∧
      ∀ ms, r.toJson = .object ms ↔ Sorted ms ∧
        ∀ column, ms.lookup column =
          overwritten (r.entries.map fun e => (e.1, e.2.toJson)) column := by
  constructor
  · rw [serialized, render, String.toList_ofList, readMembers?_chars, members, List.map_map]
    rfl
  · exact fun ms => ofMembers_eq_object_iff

/-- Columns of one name, with a name and a text that have to be escaped. -/
example : readMembers? (serialized ⟨[("a\"b", .text "x,\n"), ("a\"b", .blob [1, 2])]⟩).toList =
    some [("a\"b", "\"x,\\n\"".toList), ("a\"b", "[1,2]".toList)] := by
  decide +kernel

end Record

end NamedSql
