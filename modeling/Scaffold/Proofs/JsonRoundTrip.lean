import Scaffold.Document.Depth
import Scaffold.Document.Json.Reader
import Scaffold.Proofs.FieldReading
import Scaffold.Proofs.JsonTokens
import Scaffold.Proofs.LineEnds
import Scaffold.Proofs.TableKeys

/-!
# Stored documents there and back

A document of texts, integers, truth values, lists and maps is stored as a text that is read as the
same document, unless one of its integers has too many digits to be read; then the text is refused.
The proof goes through the row of tokens that the shape of the document calls for: the stored text
has these tokens, and the machine that reads tokens comes from them to the document.
-/

namespace Scaffold.Document

namespace Value

/-- Whether a scalar is stored as what it is. -/
def IsPlainScalar : Scalar → Prop
  | .null => True
  | .bool _ => True
  | .int _ => True
  | .string _ => True
  | _ => False

mutual

/-- Whether a value is stored as what it is: it has plain scalars only, and texts as keys, each of
them once. -/
def IsPlain : Value → Prop
  | .scalar s => IsPlainScalar s
  | .list items => ArePlainItems items
  | .map entries => ArePlainEntries entries
  | .set _ => False

/-- Whether all items of a list are plain. -/
def ArePlainItems : List Value → Prop
  | [] => True
  | v :: rest => IsPlain v ∧ ArePlainItems rest

/-- Whether all values of a map are plain, and its keys texts that differ. -/
def ArePlainEntries : List (Scalar × Value) → Prop
  | [] => True
  | (k, v) :: rest =>
    (∃ name, k = .string name ∧ ∀ pair ∈ rest, pair.1 ≠ .string name) ∧ IsPlain v ∧
      ArePlainEntries rest

end

mutual

/-- Whether all integers in a value have few enough digits to be read. -/
def hasShortIntegers : Value → Bool
  | .scalar (.int n) => Json.isShort n
  | .scalar _ => true
  | .list items => haveShortItems items
  | .map entries => haveShortEntries entries
  | .set items => items.all fun s => match s with | .int n => Json.isShort n | _ => true

/-- Whether all integers in the items of a list have few enough digits to be read. -/
def haveShortItems : List Value → Bool
  | [] => true
  | v :: rest => hasShortIntegers v && haveShortItems rest

/-- Whether all integers in the values of a map have few enough digits to be read. -/
def haveShortEntries : List (Scalar × Value) → Bool
  | [] => true
  | (_, v) :: rest => hasShortIntegers v && haveShortEntries rest

end

end Value

namespace Json

open Value

/-! ### From the document to its tokens -/

/-- The token of a plain scalar. -/
def scalarToken : Scalar → Token
  | .int n => intToken n
  | .string s => .text s
  | s => .atom s

mutual

/-- The tokens of a value. -/
def valueTokens : Value → List Token
  | .scalar s => [scalarToken s]
  | .list items => .openList :: (itemTokens items ++ [.closeList])
  | .map entries => .openMap :: (entryTokens entries ++ [.closeMap])
  | .set items =>
    .openList :: ([.comma].intercalate (items.map fun s => [scalarToken s]) ++ [.closeList])

/-- The tokens of the items of a list. -/
def itemTokens : List Value → List Token
  | [] => []
  | [v] => valueTokens v
  | v :: rest => valueTokens v ++ .comma :: itemTokens rest

/-- The tokens of the entries of a map. -/
def entryTokens : List (Scalar × Value) → List Token
  | [] => []
  | [(k, v)] => .text k.text :: .colon :: valueTokens v
  | (k, v) :: rest => .text k.text :: .colon :: (valueTokens v ++ .comma :: entryTokens rest)

end

lemma endsValue_newLine (level : Nat) (t : List Char) : EndsValue (newLine level ++ t) :=
  fun _ hc => .inr (Option.some.inj hc).symm

lemma endsValue_comma (t : List Char) : EndsValue (',' :: t) :=
  fun _ hc => .inl (Option.some.inj hc).symm

lemma readAs_printScalar {s : Scalar} (h : IsPlainScalar s) :
    ReadAs (printScalar s) [scalarToken s] := by
  cases s with
  | null => exact .null
  | bool b => exact .bool b
  | int n => exact .int n
  | string s =>
    have htext := ReadAs.text s .nil
    rwa [List.append_nil] at htext
  | float x => cases h
  | date d => cases h
  | moment m => cases h
  | bytes b => cases h

/-- What closes a list or map stands on a line of its own. -/
lemma ReadAs.close {t : List Char} {ts : List Token} (h : ReadAs t ts) (level : Nat) {c : Char}
    {token : Token} (hc : mark? c = some token) :
    ReadAs (t ++ Json.newLine level ++ [c]) (ts ++ [token]) := by
  rw [List.append_assoc]
  exact h.append ((ReadAs.nil.mark hc).newLine level) fun rest => by
    rw [List.append_assoc]
    exact endsValue_newLine level _

mutual

lemma readAs_indented (level : Nat) (v : Value) (h : v.IsPlain) :
    ReadAs (indented level v) (valueTokens v) := by
  match v with
  | .scalar s => exact readAs_printScalar h
  | .list [] => exact ((ReadAs.nil.mark rfl).mark rfl)
  | .list (v :: rest) =>
    exact ((readAs_indentedItems (level + 1) (v :: rest) h).close level rfl).mark rfl
  | .map [] => exact ((ReadAs.nil.mark rfl).mark rfl)
  | .map (e :: rest) =>
    exact ((readAs_indentedEntries (level + 1) (e :: rest) h).close level rfl).mark rfl
  | .set items => exact h.elim

lemma readAs_indentedItems (level : Nat) (items : List Value) (h : ArePlainItems items) :
    ReadAs (indentedItems level items) (itemTokens items) := by
  match items with
  | [] => exact .nil
  | [v] => exact (readAs_indented level v h.1).newLine level
  | v :: next :: rest =>
    have hrest := readAs_indentedItems level (next :: rest) h.2
    have hv := (readAs_indented level v h.1).append (hrest.mark (c := ',') rfl)
      fun _ => endsValue_comma _
    have hall := hv.newLine level
    rwa [← List.append_assoc] at hall

lemma readAs_indentedEntries (level : Nat) (entries : List (Scalar × Value))
    (h : ArePlainEntries entries) :
    ReadAs (indentedEntries level entries) (entryTokens entries) := by
  match entries with
  | [] => exact .nil
  | [(k, v)] =>
    have hv := ((readAs_indented level v h.2.1).space (c := ' ') rfl).mark (c := ':') rfl
    have hall := (hv.text k.text).newLine level
    rwa [← List.append_assoc] at hall
  | (k, v) :: next :: rest =>
    have hrest := readAs_indentedEntries level (next :: rest) h.2.2
    have hv := (readAs_indented level v h.2.1).append (hrest.mark (c := ',') rfl)
      fun _ => endsValue_comma _
    have hall := (((hv.space (c := ' ') rfl).mark (c := ':') rfl).text k.text).newLine level
    rw [← List.append_assoc] at hall
    have hshape : indentedEntries level ((k, v) :: next :: rest) =
        Json.newLine level ++ printText k.text ++ ':' :: ' ' ::
          (indented level v ++ ',' :: indentedEntries level (next :: rest)) := by
      simp [indentedEntries, printKey]
    rwa [hshape]

end

/-! ### From the tokens to the document -/

section Machine

variable {most : Nat} {stack : List Frame} {xs ys : List Lexeme}

lemma run_cons (bound : Bound) (stage : Stage) (stack : List Frame) (x : Lexeme)
    (rest : List Lexeme) :
    run bound stage stack (x :: rest) =
      match move bound stage stack x with
      | .error refusal => .error refusal
      | .ok (.done v) => .ok v
      | .ok (.next stage stack) => run bound stage stack rest := rfl

/-- What the machine comes to on the tokens of a part: it goes on as if after the part if all
integers in the part are short, and refuses one of them otherwise. -/
structure Reaches (short : Bool) (outcome after : Except Refusal Value) : Prop where
  read : short = true → outcome = after
  refused : short = false → ∃ digits, outcome = .error (.integerTooLong digits)

lemma Reaches.of_eq {outcome after : Except Refusal Value} (h : outcome = after) :
    Reaches true outcome after :=
  ⟨fun _ => h, by rintro ⟨⟩⟩

lemma Reaches.trans {p q : Bool} {outcome between after : Except Refusal Value}
    (h : Reaches p outcome between) (h' : Reaches q between after) :
    Reaches (p && q) outcome after := by
  cases p with
  | false => exact ⟨by rintro ⟨⟩, fun _ => h.refused rfl⟩
  | true =>
    rw [h.read rfl, Bool.true_and]
    exact h'

lemma run_atom {bound : Bound} {x : Lexeme} {s : Scalar} (hx : x.token = .atom s) :
    run bound .value stack (x :: ys) = run bound (.after (.scalar s)) stack ys := by
  simp only [run_cons, move, startValue, hx]

lemma run_text {bound : Bound} {x : Lexeme} {s : String} (hx : x.token = .text s) :
    run bound .value stack (x :: ys) = run bound (.after (.string s)) stack ys := by
  simp only [run_cons, move, startValue, hx]

lemma reaches_scalar {s : Scalar} (h : IsPlainScalar s) {bound : Bound} {x : Lexeme}
    (hx : x.token = scalarToken s) :
    Reaches (Value.scalar s).hasShortIntegers (run bound .value stack (x :: ys))
      (run bound (.after (.scalar s)) stack ys) := by
  cases s with
  | null => exact .of_eq (run_atom hx)
  | bool b => exact .of_eq (run_atom hx)
  | string t => exact .of_eq (run_text hx)
  | int n =>
    rw [scalarToken, intToken] at hx
    rw [hasShortIntegers]
    constructor
    · intro hn
      rw [if_pos hn] at hx
      exact run_atom hx
    · intro hn
      rw [hn, if_neg Bool.false_ne_true] at hx
      refine ⟨(Nat.toDigits 10 n.natAbs).length, ?_⟩
      simp only [run_cons, move, startValue, hx]
  | float x => cases h
  | date d => cases h
  | moment m => cases h
  | bytes b => cases h

lemma insert_of_forall_ne {entries : Entries} {k : Scalar} {name : String} (v : Value)
    (hk : k = .string name) (h : ∀ pair ∈ entries, pair.1 ≠ k) :
    Table.insert entries (.string name) v = entries ++ [(k, v)] := by
  subst hk
  refine Table.insert_of_forall_ne v fun key hkey => ?_
  obtain ⟨pair, hpair, rfl⟩ := List.mem_map.mp hkey
  exact eq_false_of_ne_true (mt Schema.beq_string_iff.mp (h pair hpair))

lemma one_le_depth (v : Value) : 1 ≤ v.depth := by
  cases v with
  | scalar s => exact Nat.le_refl 1
  | list items => exact Nat.le_add_left 1 _
  | map entries => exact Nat.le_add_left 1 _
  | set items => cases items <;> simp [depth]

/-- The machine comes to the first item of a list as to any value. -/
lemma run_firstItem {x : Lexeme} (hx : x.token ≠ .closeList) (hdepth : stack.length < most) :
    run (.filled most) .firstItem stack (x :: xs) =
      run (.filled most) .value (.list [] :: stack) (x :: xs) := by
  have hmove : move (.filled most) .firstItem stack x =
      move (.filled most) .value (.list [] :: stack) x := by
    simp only [move]
    rw [startPart, if_neg (by omega)]
  rw [run_cons, run_cons, hmove]

/-- The machine comes to the first key of a map as to any key. -/
lemma run_firstName {x : Lexeme} {name : String} (hx : x.token = .text name)
    (hdepth : stack.length < most) :
    run (.filled most) .firstName stack (x :: xs) =
      run (.filled most) (.name []) stack (x :: xs) := by
  have hmove : move (.filled most) .firstName stack x =
      move (.filled most) (.name []) stack x := by
    simp only [move]
    split
    · next hclose => simp [hx] at hclose
    · rw [startPart, if_neg (by omega)]
  rw [run_cons, run_cons, hmove]

lemma head_valueTokens (v : Value) : ∃ token tokens, valueTokens v = token :: tokens ∧
    token ≠ .closeList := by
  cases v with
  | list items => exact ⟨_, _, rfl, by simp⟩
  | map entries => exact ⟨_, _, rfl, by simp⟩
  | set items => exact ⟨_, _, rfl, by simp⟩
  | scalar s =>
    refine ⟨_, _, rfl, ?_⟩
    cases s with
    | int n =>
      rw [scalarToken, intToken]
      split <;> simp
    | _ => simp [scalarToken]

lemma head_itemTokens (v : Value) (rest : List Value) :
    ∃ token tokens, itemTokens (v :: rest) = token :: tokens ∧ token ≠ .closeList := by
  obtain ⟨token, tokens, hv, htoken⟩ := head_valueTokens v
  cases rest with
  | nil => exact ⟨token, tokens, hv, htoken⟩
  | cons next more =>
    refine ⟨token, tokens ++ .comma :: itemTokens (next :: more), ?_, htoken⟩
    simp [itemTokens, hv]

lemma head_entryTokens (k : Scalar) (v : Value) (rest : List (Scalar × Value)) :
    ∃ tokens, entryTokens ((k, v) :: rest) = .text k.text :: tokens := by
  cases rest with
  | nil => exact ⟨_, rfl⟩
  | cons next more => exact ⟨_, by rw [entryTokens]; simp⟩

lemma run_name {bound : Bound} {entries : Entries} {name : String} {x x' : Lexeme}
    (hx : x.token = .text name) (hx' : x'.token = .colon) :
    run bound (.name entries) stack (x :: x' :: xs) =
      run bound .value (.map entries name :: stack) xs := by
  simp only [run_cons, move, startName, hx, hx']

end Machine

mutual

/-- The machine comes from the tokens of a value to what follows the value. -/
lemma reaches_value (most : Nat) (stack : List Frame) (ys : List Lexeme) {xs : List Lexeme}
    (v : Value) (h : v.IsPlain) (hdepth : stack.length + v.depth ≤ most + 1)
    (hxs : xs.map Lexeme.token = valueTokens v) :
    Reaches v.hasShortIntegers (run (.filled most) .value stack (xs ++ ys))
      (run (.filled most) (.after v) stack ys) := by
  match v with
  | .scalar s =>
    obtain ⟨x, rfl, hx⟩ := List.map_eq_singleton_iff.mp hxs
    exact reaches_scalar h hx
  | .list [] =>
    obtain ⟨x, tail, rfl, hx, htail⟩ := List.map_eq_cons_iff.mp hxs
    obtain ⟨y, rfl, hy⟩ := List.map_eq_singleton_iff.mp htail
    have hrun : run (.filled most) .value stack (x :: y :: ys) =
        run (.filled most) (.after (.list [])) stack ys := by
      simp only [run_cons, move, startValue, openContainer, hx, hy]
    exact .of_eq hrun
  | .list (v :: rest) =>
    obtain ⟨x, tail, rfl, hx, htail⟩ := List.map_eq_cons_iff.mp hxs
    rw [depth] at hdepth
    have hone : 1 ≤ depthOfItems (v :: rest) := le_max_of_le_left (one_le_depth v)
    have hitems := reaches_items most stack ys (v :: rest) []
      (List.cons_ne_nil v rest) h (by omega) htail
    obtain ⟨token, tokens, htokens, htoken⟩ := head_itemTokens v rest
    rw [htokens, List.cons_append] at htail
    obtain ⟨y, others, rfl, rfl, -⟩ := List.map_eq_cons_iff.mp htail
    rw [List.cons_append, ← run_firstItem htoken (by omega)] at hitems
    simp only [List.cons_append, run_cons _ _ _ x, move, startValue, openContainer, hx]
    exact hitems
  | .map [] =>
    obtain ⟨x, tail, rfl, hx, htail⟩ := List.map_eq_cons_iff.mp hxs
    obtain ⟨y, rfl, hy⟩ := List.map_eq_singleton_iff.mp htail
    have hrun : run (.filled most) .value stack (x :: y :: ys) =
        run (.filled most) (.after (.map [])) stack ys := by
      simp only [run_cons, move, startValue, openContainer, hx, hy]
    exact .of_eq hrun
  | .map ((k, v) :: rest) =>
    obtain ⟨x, tail, rfl, hx, htail⟩ := List.map_eq_cons_iff.mp hxs
    rw [depth] at hdepth
    have hone : 1 ≤ depthOfEntries ((k, v) :: rest) := le_max_of_le_left (one_le_depth v)
    have hentries := reaches_entries most stack ys ((k, v) :: rest) []
      (List.cons_ne_nil (k, v) rest) h (by simp) (by omega) htail
    obtain ⟨tokens, htokens⟩ := head_entryTokens k v rest
    rw [htokens, List.cons_append] at htail
    obtain ⟨y, others, rfl, hy, -⟩ := List.map_eq_cons_iff.mp htail
    rw [List.cons_append, ← run_firstName hy (by omega)] at hentries
    simp only [List.cons_append, run_cons _ _ _ x, move, startValue, openContainer, hx]
    exact hentries
  | .set items => exact h.elim

/-- The machine comes from the tokens of items and the end of their list to what follows the
list. -/
lemma reaches_items (most : Nat) (stack : List Frame) (ys : List Lexeme) {xs : List Lexeme}
    (items done : List Value) (hne : items ≠ []) (h : ArePlainItems items)
    (hdepth : stack.length + 1 + depthOfItems items ≤ most + 1)
    (hxs : xs.map Lexeme.token = itemTokens items ++ [.closeList]) :
    Reaches (haveShortItems items) (run (.filled most) .value (.list done :: stack) (xs ++ ys))
      (run (.filled most) (.after (.list (done.reverse ++ items))) stack ys) := by
  match items with
  | [] => exact absurd rfl hne
  | [v] =>
    rw [depthOfItems] at hdepth
    obtain ⟨vs, ends, rfl, hvs, hends⟩ := List.map_eq_append_iff.mp hxs
    obtain ⟨y, rfl, hy⟩ := List.map_eq_singleton_iff.mp hends
    have hv := reaches_value most (.list done :: stack) (y :: ys) v h.1
      (by rw [List.length_cons]; omega) hvs
    have hend : run (.filled most) (.after v) (.list done :: stack) (y :: ys) =
        run (.filled most) (.after (.list (done.reverse ++ [v]))) stack ys := by
      simp only [run_cons, move, endValue, hy, List.reverse_cons]
    rw [hend] at hv
    rw [List.append_assoc, List.singleton_append]
    exact hv.trans (.of_eq rfl)
  | v :: next :: more =>
    have hshape : itemTokens (v :: next :: more) ++ [.closeList] =
        valueTokens v ++ .comma :: (itemTokens (next :: more) ++ [.closeList]) := by
      simp [itemTokens]
    rw [depthOfItems] at hdepth
    rw [hshape] at hxs
    obtain ⟨vs, others, rfl, hvs, hothers⟩ := List.map_eq_append_iff.mp hxs
    obtain ⟨y, others, rfl, hy, hmore⟩ := List.map_eq_cons_iff.mp hothers
    have hv := reaches_value most (.list done :: stack) (y :: (others ++ ys)) v h.1
      (by rw [List.length_cons]; omega) hvs
    have hrest := reaches_items most stack ys (next :: more)
      (v :: done) (List.cons_ne_nil next more) h.2 (by omega) hmore
    have hcomma : run (.filled most) (.after v) (.list done :: stack) (y :: (others ++ ys)) =
        run (.filled most) .value (.list (v :: done) :: stack) (others ++ ys) := by
      simp only [run_cons, move, endValue, hy]
    rw [hcomma] at hv
    rw [List.reverse_cons, List.append_assoc, List.singleton_append] at hrest
    rw [List.append_assoc, List.cons_append]
    exact hv.trans hrest

/-- The machine comes from the tokens of entries and the end of their map to what follows the
map. -/
lemma reaches_entries (most : Nat) (stack : List Frame) (ys : List Lexeme) {xs : List Lexeme}
    (entries done : List (Scalar × Value)) (hne : entries ≠ []) (h : ArePlainEntries entries)
    (hdone : ∀ pair ∈ done, ∀ pair' ∈ entries, pair.1 ≠ pair'.1)
    (hdepth : stack.length + 1 + depthOfEntries entries ≤ most + 1)
    (hxs : xs.map Lexeme.token = entryTokens entries ++ [.closeMap]) :
    Reaches (haveShortEntries entries) (run (.filled most) (.name done) stack (xs ++ ys))
      (run (.filled most) (.after (.map (done ++ entries))) stack ys) := by
  match entries with
  | [] => exact absurd rfl hne
  | [(k, v)] =>
    obtain ⟨⟨name, hk, -⟩, hplain, -⟩ := h
    have hinsert : Table.insert done (.string name) v = done ++ [(k, v)] :=
      insert_of_forall_ne v hk fun pair hpair => hdone pair hpair _ List.mem_cons_self
    rw [depthOfEntries] at hdepth
    obtain ⟨x, tail, rfl, hx, htail⟩ := List.map_eq_cons_iff.mp hxs
    obtain ⟨x', tail, rfl, hx', hvalue⟩ := List.map_eq_cons_iff.mp htail
    obtain ⟨vs, ends, rfl, hvs, hends⟩ := List.map_eq_append_iff.mp hvalue
    obtain ⟨y, rfl, hy⟩ := List.map_eq_singleton_iff.mp hends
    rw [hk] at hx
    have hv := reaches_value most (.map done name :: stack) (y :: ys) v
      hplain (by rw [List.length_cons]; omega) hvs
    have hend : run (.filled most) (.after v) (.map done name :: stack) (y :: ys) =
        run (.filled most) (.after (.map (done ++ [(k, v)]))) stack ys := by
      simp only [run_cons, move, endValue, hy, hinsert]
    rw [hend] at hv
    rw [List.cons_append, List.cons_append, run_name hx hx', List.append_assoc,
      List.singleton_append]
    exact hv.trans (.of_eq rfl)
  | (k, v) :: next :: more =>
    obtain ⟨⟨name, hk, hname⟩, hplain, hplains⟩ := h
    have hinsert : Table.insert done (.string name) v = done ++ [(k, v)] :=
      insert_of_forall_ne v hk fun pair hpair => hdone pair hpair _ List.mem_cons_self
    have hnew : ∀ pair ∈ done ++ [(k, v)], ∀ pair' ∈ next :: more, pair.1 ≠ pair'.1 := by
      intro pair hpair pair' hpair'
      rcases List.mem_append.mp hpair with hold | hlast
      · exact hdone pair hold pair' (List.mem_cons_of_mem _ hpair')
      · rw [List.mem_singleton.mp hlast, hk]
        exact (hname pair' hpair').symm
    have hshape : entryTokens ((k, v) :: next :: more) ++ [.closeMap] =
        .text k.text :: .colon :: (valueTokens v ++
          .comma :: (entryTokens (next :: more) ++ [.closeMap])) := by
      simp [entryTokens]
    rw [depthOfEntries] at hdepth
    rw [hshape] at hxs
    obtain ⟨x, tail, rfl, hx, htail⟩ := List.map_eq_cons_iff.mp hxs
    obtain ⟨x', tail, rfl, hx', hvalue⟩ := List.map_eq_cons_iff.mp htail
    obtain ⟨vs, others, rfl, hvs, hothers⟩ := List.map_eq_append_iff.mp hvalue
    obtain ⟨y, others, rfl, hy, hmore⟩ := List.map_eq_cons_iff.mp hothers
    rw [hk] at hx
    have hv := reaches_value most (.map done name :: stack) (y :: (others ++ ys)) v hplain
      (by rw [List.length_cons]; omega) hvs
    have hrest := reaches_entries most stack ys (next :: more)
      (done ++ [(k, v)]) (List.cons_ne_nil next more) hplains hnew (by omega) hmore
    have hcomma : run (.filled most) (.after v) (.map done name :: stack) (y :: (others ++ ys)) =
        run (.filled most) (.name (done ++ [(k, v)])) stack (others ++ ys) := by
      simp only [run_cons, move, endValue, hy, hinsert]
    rw [hcomma] at hv
    rw [List.append_assoc, List.singleton_append] at hrest
    rw [List.cons_append, List.cons_append, run_name hx hx', List.append_assoc, List.cons_append]
    exact hv.trans hrest

end

/-! ### There and back -/

lemma indented_ne_byteOrderMark (level : Nat) {v : Value} (h : v.IsPlain) (t : List Char) :
    indented level v ≠ '\ufeff' :: t := by
  match v with
  | .list [] => simp [indented]
  | .list (v :: rest) => simp [indented]
  | .map [] => simp [indented]
  | .map (e :: rest) => simp [indented]
  | .set items => exact h.elim
  | .scalar s =>
    cases s with
    | null => simp [indented, printScalar]
    | bool b => cases b <;> simp [indented, printScalar]
    | string s => simp [indented, printScalar, printText]
    | int n =>
      intro hmark
      have hmem : '\ufeff' ∈ (toString n).toList := by
        rw [indented, printScalar] at hmark
        rw [hmark]
        exact List.mem_cons_self
      rw [toList_toString_int, List.mem_append] at hmem
      rcases hmem with hsign | hdigit
      · split at hsign <;> simp at hsign
      · exact absurd (isDigit_of_mem_toDigits hdigit) (by decide)
    | float x => cases h
    | date d => cases h
    | moment m => cases h
    | bytes b => cases h

/-- A stored document is read as what it is if all its integers have few enough digits, and refused
otherwise. -/
theorem readWithin_stored {most : Nat} {v : Value} (h : v.IsPlain) (hdepth : v.depth ≤ most + 1) :
    Reaches v.hasShortIntegers (readWithin (.filled most) (stored v)) (.ok v) := by
  obtain ⟨xs, next, hxs, hread⟩ := readAs_indented 0 v h [] 0 (by rintro _ ⟨⟩)
  rw [List.append_nil] at hread
  have hrun : readWithin (.filled most) (stored v) =
      run (.filled most) .value [] (xs ++ tokensFrom next []) := by
    rw [stored, readWithin.eq_2 _ _ (indented_ne_byteOrderMark 0 h), tokens, hread]
  have hend : run (.filled most) (.after v) [] (tokensFrom next []) = .ok v := by
    rw [tokensFrom]
    rfl
  rw [hrun, ← hend]
  exact reaches_value _ _ _ v h (by rw [List.length_nil]; omega) hxs

/-! ### Line ends -/

lemma not_mem_hexDigits : ∀ n < 32, '\r' ∉ Text.hexDigits 4 n := by decide

lemma not_mem_escape (c : Char) : '\r' ∉ escape c := by
  unfold escape
  iterate 7
    split
    · simp
  split
  · next h => simpa using not_mem_hexDigits c.toNat h
  · next h _ _ _ _ => simpa using Ne.symm h

lemma not_mem_printText (s : String) : '\r' ∉ printText s := by
  simp [printText, not_mem_escape]

lemma not_mem_newLine (level : Nat) : '\r' ∉ newLine level := by
  simp [newLine]

lemma not_mem_printScalar {s : Scalar} (h : IsPlainScalar s) : '\r' ∉ printScalar s := by
  cases s with
  | null => simp [printScalar]
  | bool b => cases b <;> simp [printScalar]
  | string s => exact not_mem_printText s
  | int n =>
    rw [printScalar, toList_toString_int, List.mem_append, not_or]
    refine ⟨by split <;> simp, fun hdigit => ?_⟩
    exact absurd (isDigit_of_mem_toDigits hdigit) (by decide)
  | float x => cases h
  | date d => cases h
  | moment m => cases h
  | bytes b => cases h

mutual

/-- A stored document has no carriage return. -/
lemma not_mem_indented (level : Nat) (v : Value) (h : v.IsPlain) : '\r' ∉ indented level v := by
  match v with
  | .scalar s => exact not_mem_printScalar h
  | .list [] => simp [indented]
  | .list (v :: rest) =>
    have hitems := not_mem_indentedItems (level + 1) (v :: rest) h
    simp [indented, hitems, not_mem_newLine]
  | .map [] => simp [indented]
  | .map (e :: rest) =>
    have hentries := not_mem_indentedEntries (level + 1) (e :: rest) h
    simp [indented, hentries, not_mem_newLine]
  | .set items => exact h.elim

lemma not_mem_indentedItems (level : Nat) (items : List Value) (h : ArePlainItems items) :
    '\r' ∉ indentedItems level items := by
  match items with
  | [] => simp [indentedItems]
  | [v] => simp [indentedItems, not_mem_indented level v h.1, not_mem_newLine]
  | v :: next :: rest =>
    have hrest := not_mem_indentedItems level (next :: rest) h.2
    simp [indentedItems, not_mem_indented level v h.1, not_mem_newLine, hrest]

lemma not_mem_indentedEntries (level : Nat) (entries : List (Scalar × Value))
    (h : ArePlainEntries entries) : '\r' ∉ indentedEntries level entries := by
  match entries with
  | [] => simp [indentedEntries]
  | [(k, v)] =>
    simp [indentedEntries, printKey, not_mem_indented level v h.2.1, not_mem_newLine,
      not_mem_printText]
  | (k, v) :: next :: rest =>
    have hrest := not_mem_indentedEntries level (next :: rest) h.2.2
    simp [indentedEntries, printKey, not_mem_indented level v h.2.1, not_mem_newLine,
      not_mem_printText, hrest]

end

/-- A stored document has no line ends but line feeds. -/
lemma unifyLineEnds_stored {v : Value} (h : v.IsPlain) :
    Text.unifyLineEnds (stored v) = stored v :=
  Text.unifyLineEnds_of_not_mem (not_mem_indented 0 v h)

end Json

end Scaffold.Document
