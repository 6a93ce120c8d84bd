import Logbook.Json.Reader
import Logbook.Text.Blank
import Logbook.Text.Search

/-!
# Relaxed structured data

Consoles print objects and arrays in a looser notation than JSON: names without quotes, single
quotes, members that are `undefined`, commas before a closing bracket. A text that is not JSON is
brought into its form step by step.

* `opensStructure`: whether a text can be an object or an array at all;
* `maskColons`, `quoteNames`, `dropUndefined`, `dropTrailingCommas`, `unmaskColons`: the steps;
* **`parseRelaxed?`**: the structured data that a text is, strictly or after these steps.
-/

namespace Logbook

namespace Relaxed

/-- A character of a name without quotes. -/
def isNameChar (c : Char) : Bool := c.isAlphanum || c == '_'

/-- Whether the first character that is no blank opens an object or an array. -/
def opensStructure (cs : List Char) : Bool :=
  match cs.dropWhile Text.isBlank with
  | c :: _ => c == '[' || c == '\x7b'
  | [] => false

/-- What stands for a colon inside a quoted value while names are looked for. -/
def mask : List Char := ['@', 'c', 'o', 'l', 'o', 'n', '@']

/-- A quoted value after blanks: what is between the quotes, and what follows. -/
def quotedValue? (cs : List Char) : Option (List Char × List Char) :=
  match cs.dropWhile Text.isBlank with
  | '"' :: rest =>
    match rest.dropWhile (· != '"') with
    | _ :: after => some (rest.takeWhile (· != '"'), after)
    | [] => none
  | _ => none

theorem quotedValue?_length {cs body after : List Char} (h : quotedValue? cs = some (body, after)) :
    after.length < cs.length := by
  unfold quotedValue? at h
  have h₁ := (List.dropWhile_suffix (l := cs) Text.isBlank).length_le
  split at h
  · next rest heq =>
    have h₂ := (List.dropWhile_suffix (l := rest) (· != '"')).length_le
    split at h
    · next heq' =>
      simp only [Option.some.injEq, Prod.mk.injEq] at h
      obtain ⟨-, rfl⟩ := h
      rw [heq] at h₁
      rw [heq'] at h₂
      simp only [List.length_cons] at h₁ h₂
      omega
    · simp at h
  · simp at h

/-- Writes the mask for the colons inside quoted values that follow a colon. -/
def maskColons (cs : List Char) : List Char :=
  match cs with
  | [] => []
  | c :: rest =>
    if c = ':' then
      match _h : quotedValue? rest with
      | some (body, after) =>
        [':', ' ', '"'] ++ body.flatMap (fun d => if d = ':' then mask else [d])
          ++ '"' :: maskColons after
      | none => ':' :: maskColons rest
    else c :: maskColons rest
  termination_by cs.length
  decreasing_by
    · have := quotedValue?_length _h
      simp only [List.length_cons]
      omega
    · simp
    · simp

/-- Puts names in front of a colon between quotes. -/
def quoteNames (cs : List Char) : List Char :=
  match cs with
  | [] => []
  | c :: rest =>
    if isNameChar c then
      let name := c :: rest.takeWhile isNameChar
      match _h : rest.dropWhile isNameChar with
      | ':' :: after => '"' :: (name ++ ['"', ':', ' '] ++ quoteNames after)
      | after => name ++ quoteNames after
    else c :: quoteNames rest
  termination_by cs.length
  decreasing_by
    · have := (List.dropWhile_suffix (l := rest) isNameChar).length_le
      rw [_h] at this
      simp only [List.length_cons] at this ⊢
      omega
    · have := (List.dropWhile_suffix (l := rest) isNameChar).length_le
      rw [_h] at this
      simp only [List.length_cons]
      omega
    · simp

/-- The word for a value that is missing. -/
def undefinedWord : List Char := ['u', 'n', 'd', 'e', 'f', 'i', 'n', 'e', 'd']

/-- Without one comma at the start. -/
def dropComma : List Char → List Char
  | ',' :: cs => cs
  | cs => cs

/-- What follows a member without a value, after the quote that opens its name. -/
def afterUndefined? (cs : List Char) : Option (List Char) :=
  if (cs.takeWhile isNameChar).isEmpty then none
  else
    match cs.dropWhile isNameChar with
    | '"' :: ':' :: rest =>
      let rest := rest.dropWhile Text.isBlank
      if undefinedWord.isPrefixOf rest then some (dropComma (rest.drop undefinedWord.length))
      else none
    | _ => none

theorem afterUndefined?_length {cs after : List Char} (h : afterUndefined? cs = some after) :
    after.length ≤ cs.length := by
  unfold afterUndefined? at h
  have h₁ := (List.dropWhile_suffix (l := cs) isNameChar).length_le
  split at h
  · simp at h
  · split at h
    · next rest heq =>
      have h₂ := (List.dropWhile_suffix (l := rest) Text.isBlank).length_le
      rw [heq] at h₁
      simp only [List.length_cons] at h₁
      simp only at h
      split at h
      · simp only [Option.some.injEq] at h
        subst h
        have h₃ : ∀ l : List Char, (dropComma l).length ≤ l.length := by
          intro l
          unfold dropComma
          split <;> simp
        have h₄ := h₃ ((rest.dropWhile Text.isBlank).drop undefinedWord.length)
        simp only [List.length_drop] at h₄
        omega
      · simp at h
    · simp at h

/-- Leaves out members without a value. -/
def dropUndefined (cs : List Char) : List Char :=
  match cs with
  | [] => []
  | c :: rest =>
    if c = '"' then
      match _h : afterUndefined? rest with
      | some after => dropUndefined after
      | none => '"' :: dropUndefined rest
    else c :: dropUndefined rest
  termination_by cs.length
  decreasing_by
    · have := afterUndefined?_length _h
      simp only [List.length_cons]
      omega
    · simp
    · simp

/-- Whether the first character that is no blank closes an object or an array. -/
def closesStructure (cs : List Char) : Bool :=
  match cs.dropWhile Text.isBlank with
  | c :: _ => c == ']' || c == '\x7d'
  | [] => false

/-- Leaves out commas in front of a closing bracket. -/
def dropTrailingCommas : List Char → List Char
  | [] => []
  | c :: rest =>
    if c = ',' && closesStructure rest then dropTrailingCommas rest
    else c :: dropTrailingCommas rest

/-- Double quotes for single ones. -/
def doubleQuotes (cs : List Char) : List Char := cs.map fun c => if c = '\'' then '"' else c

/-- Writes colons for the mask. -/
def unmaskColons (cs : List Char) : List Char := Text.replaceAll mask [':'] cs

/-- A text brought into the form of JSON. -/
def tidy (cs : List Char) : List Char :=
  unmaskColons (dropTrailingCommas (dropUndefined (quoteNames (maskColons (doubleQuotes cs)))))

end Relaxed

/-- **The structured data that a text is.** -/
def parseRelaxed? (cs : List Char) : Option Json :=
  if Relaxed.opensStructure cs then (Json.parse? cs).or (Json.parse? (Relaxed.tidy cs)) else none

end Logbook
