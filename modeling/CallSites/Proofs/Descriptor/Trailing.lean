/-
  CallSites.Proofs.Descriptor.Trailing

  Text after a complete descriptor. Reading stops where the descriptor does, so that what follows is
  refused, and no descriptor begins another one. What is reported depends on the result: text after
  a type is reported as such, but the letter for no result is one only where it ends the text, and
  elsewhere the letter itself is reported.
-/
import CallSites.Proofs.Descriptor.Grammar
import CallSites.Proofs.Outcome

namespace CallSites

/-! ## Results -/

/-- The letter for no result does not begin a field type. -/
theorem FieldType.chars_append_ne_void (type : FieldType) (more : List Symbol) :
    type.chars ++ more ≠ [.char voidCode] := by
  intro hvoid
  have hread := FieldType.read_chars_append 0 type more
  rw [hvoid] at hread
  cases hread

theorem FieldType.chars_append_ne_nil (type : FieldType) (more : List Symbol) :
    type.chars ++ more ≠ [] := by
  obtain ⟨c, tail, hchars, -⟩ := type.exists_chars_eq_cons
  rw [hchars]
  exact List.cons_ne_nil _ _

/-- After a type the reader stops, and what follows is left over. -/
theorem readResult_value_append (position : Nat) (type : FieldType) {more : List Symbol}
    (hmore : more ≠ []) :
    readResult position (type.chars ++ more) = .error (.trailing more) := by
  have hread := FieldType.read_chars_append position type more
  rw [readResult, if_neg (type.chars_append_ne_void more), if_neg (type.chars_append_ne_nil more),
    hread]
  cases more with
  | nil => exact absurd rfl hmore
  | cons c more => rfl

/-- With text after it, the letter for no result is read as a type, which it is not. -/
theorem readResult_void_append (position : Nat) {more : List Symbol} (hmore : more ≠ []) :
    readResult position (.char voidCode :: more) =
      .error (.unexpected (.char voidCode) position) := by
  have hvoid : Symbol.char voidCode :: more ≠ [.char voidCode] := fun h => hmore (List.cons.inj h).2
  have hread : FieldType.read position (.char voidCode :: more) =
      .error (.unexpected (.char voidCode) position) := rfl
  rw [readResult, if_neg hvoid, if_neg (List.cons_ne_nil _ _), hread]

/-! ## Descriptors -/

namespace MethodDescriptor

/-- What is wrong with the text of a descriptor that is followed by more. -/
def faultBefore (descriptor : MethodDescriptor) (more : List Symbol) : DescriptorFault :=
  match descriptor.result with
  | .void => .unexpected (.char voidCode) (descriptor.chars.length - 1)
  | .value _ => .trailing more

theorem readChars_append (descriptor : MethodDescriptor) {more : List Symbol} (hmore : more ≠ []) :
    readChars (descriptor.chars ++ more) = .error (descriptor.faultBefore more) := by
  obtain ⟨parameters, result⟩ := descriptor
  -- The parameters are read whatever the result is, and the position is behind the parenthesis.
  have hparameters := readParameters_flatMap_append 1 parameters (result.chars ++ more)
  have htext : chars ⟨parameters, result⟩ ++ more =
      .char '(' ::
        (parameters.flatMap FieldType.chars ++ .char ')' :: (result.chars ++ more)) := by
    simp [chars]
  rw [htext, readChars, hparameters]
  cases result with
  | value type => simp only [ReturnType.chars, readResult_value_append _ type hmore, faultBefore]
  | void =>
    have hlength : (chars ⟨parameters, .void⟩).length - 1 =
        1 + (parameters.flatMap FieldType.chars).length + 1 := by
      simp only [chars, ReturnType.chars, List.length_cons, List.length_append, List.length_nil]
      omega
    have hresult := readResult_void_append
      (1 + (parameters.flatMap FieldType.chars).length + 1) hmore
    simp only [ReturnType.chars, List.singleton_append, hresult, faultBefore, hlength]

theorem read_append {text more : Text} {descriptor : MethodDescriptor}
    (h : read text = .ok descriptor) (hmore : more ≠ "") :
    read (text ++ more) = .error ⟨text ++ more, descriptor.faultBefore more.toList⟩ := by
  obtain rfl := read_eq_ok_iff.mp h
  have hnil : more.toList ≠ [] := fun hnil => hmore (Text.toList_injective hnil)
  have hchars : (descriptor.text ++ more).toList = descriptor.chars ++ more.toList := by
    rw [Text.toList_append, text, Text.toList_ofList]
  rw [read, hchars, readChars_append descriptor hnil]
  rfl

/-- No descriptor is the beginning of another one. -/
theorem not_isMethodDescriptor_of_prefix {first second : Text}
    (hfirst : isMethodDescriptor first = true) (hbegins : first.toList <+: second.toList)
    (hne : first ≠ second) : isMethodDescriptor second = false := by
  obtain ⟨descriptor, hread⟩ := isMethodDescriptor_iff.mp hfirst
  obtain ⟨more, hmore⟩ := hbegins
  have hsecond : second = first ++ Text.ofList more := by
    apply Text.toList_injective
    rw [Text.toList_append, Text.toList_ofList, hmore]
  have hrest : Text.ofList more ≠ "" := by
    intro hempty
    obtain rfl : more = [] := congrArg Text.toList hempty
    rw [List.append_nil] at hmore
    exact hne (Text.toList_injective hmore)
  rw [hsecond, isMethodDescriptor, read_append hread hrest]
  rfl

/-- Of all descriptors only those without a result end in the letter for it. -/
theorem result_text_eq_void_iff {descriptor : MethodDescriptor} :
    descriptor.result.text = "V" ↔ descriptor.result = .void := by
  cases descriptor.result with
  | void => exact iff_of_true rfl rfl
  | value type =>
    refine iff_of_false ?_ (by simp)
    intro htext
    have hchars : type.chars = [.char voidCode] := congrArg Text.toList htext
    rw [← List.append_nil type.chars] at hchars
    exact type.chars_append_ne_void [] hchars

theorem reason_trailing (more : Text) :
    (DescriptorFault.trailing more.toList).reason =
      "unexpected trailing characters " ++ Text.quote more := by
  have hreason : (DescriptorFault.trailing more.toList).reason =
      "unexpected trailing characters " ++ Text.quote (Text.ofList more.toList) := rfl
  rw [hreason, Text.ofList_toList]

theorem reason_unexpected_void (position : Nat) :
    (DescriptorFault.unexpected (.char voidCode) position).reason =
      "unexpected character 'V' at position " ++ toString position := by
  have hreason : (DescriptorFault.unexpected (.char voidCode) position).reason =
      "unexpected character " ++ Text.quote (.ofList [.char voidCode]) ++ " at position " ++
        toString position := rfl
  have hquote : "unexpected character " ++ Text.quote (.ofList [.char voidCode]) ++
      " at position " = "unexpected character 'V' at position " := by decide
  rw [hreason, hquote]

theorem reason_unexpected_void_ne_trailing (position : Nat) (more : Text) :
    (DescriptorFault.unexpected (.char voidCode) position).reason ≠
      "unexpected trailing characters " ++ Text.quote more := by
  intro h
  rw [reason_unexpected_void] at h
  have hchars := congrArg String.toList h
  simp at hchars

/-- A descriptor that is followed by more text is refused by an error that names the whole text.
    The error reports exactly the text that follows if there is a result type. After the letter for
    no result, and only there, it does not: it reports that letter. No descriptor is the beginning
    of another one. -/
theorem text_after_descriptor_is_refused {text result : Text} {parameters : List Text}
    (h : split text = .ok (parameters, result)) :
    (∀ more : Text, more ≠ "" →
      ∃ error, split (text ++ more) = .error error ∧ error.descriptor = text ++ more ∧
        (error.fault.reason = "unexpected trailing characters " ++ Text.quote more ↔
          result ≠ "V") ∧
        (result = "V" →
          error.fault.reason =
            "unexpected character 'V' at position " ++ toString (text.length - 1))) ∧
    ∀ other : Text, text.toList <+: other.toList → text ≠ other →
      isMethodDescriptor other = false := by
  obtain ⟨descriptor, hread, hparts⟩ := map_eq_ok_iff.mp h
  obtain ⟨-, rfl⟩ := Prod.mk.inj hparts
  refine ⟨?_, ?_⟩
  · intro more hmore
    refine ⟨_, split_eq_error_iff.mpr (read_append hread hmore), rfl, ?_⟩
    rw [Ne, result_text_eq_void_iff]
    have hlength : text.length = descriptor.chars.length := by
      rw [read_eq_ok_iff.mp hread, MethodDescriptor.text, Text.length, Text.toList_ofList]
    cases hresult : descriptor.result with
    | value type =>
      have hfault : descriptor.faultBefore more.toList = .trailing more.toList := by
        rw [faultBefore, hresult]
      have hvalue : ReturnType.value type ≠ .void := by simp
      rw [hfault]
      exact ⟨iff_of_true (reason_trailing more) hvalue, fun hvoid => absurd hvoid hvalue⟩
    | void =>
      have hfault : descriptor.faultBefore more.toList =
          .unexpected (.char voidCode) (text.length - 1) := by
        rw [faultBefore, hresult, hlength]
      have hne := reason_unexpected_void_ne_trailing (text.length - 1) more
      rw [hfault]
      exact ⟨iff_of_false hne (not_not.mpr rfl), fun _ => reason_unexpected_void _⟩
  · intro other hbegins hne
    have hlegal : isMethodDescriptor text = true := isMethodDescriptor_iff.mpr ⟨descriptor, hread⟩
    exact not_isMethodDescriptor_of_prefix hlegal hbegins hne

/-- Text after a class, which begins with the character that ends the class. -/
theorem text_after_descriptor_is_refused_semicolon :
    split "(I)La/b;" = .ok (["I"], "La/b;") ∧
    (∃ error, split ("(I)La/b;" ++ ";[") = .error error ∧
      error.descriptor = "(I)La/b;" ++ ";[" ∧
      error.fault.reason = "unexpected trailing characters ';['") ∧
    Text.toList "(I)La/b;" <+: Text.toList "(I)La/b;;[" ∧
    isMethodDescriptor "(I)La/b;;[" = false := by
  have hsplit : split "(I)La/b;" = .ok (["I"], "La/b;") := by cbv
  have hbegins : Text.toList "(I)La/b;" <+: Text.toList "(I)La/b;;[" :=
    ⟨Text.toList ";[", by decide⟩
  have hquote : "unexpected trailing characters " ++ Text.quote ";[" =
      "unexpected trailing characters ';['" := by decide
  obtain ⟨hmore, hother⟩ := text_after_descriptor_is_refused hsplit
  obtain ⟨error, herror, hdescriptor, hvalue, -⟩ := hmore ";[" (by decide)
  refine ⟨hsplit, ⟨error, herror, hdescriptor, ?_⟩, hbegins, ?_⟩
  · rw [hvalue.mpr (by decide), hquote]
  · exact hother "(I)La/b;;[" hbegins (by decide)

/-- After the letter for no result the text that follows is not what is reported. -/
theorem text_after_no_result_is_not_trailing :
    split "()V" = .ok ([], "V") ∧
    ∃ error, split ("()V" ++ "I") = .error error ∧ error.descriptor = "()VI" ∧
      error.fault.reason = "unexpected character 'V' at position 2" ∧
      error.fault.reason ≠ "unexpected trailing characters " ++ Text.quote "I" := by
  have hsplit : split "()V" = .ok ([], "V") := by cbv
  have hmore : split ("()V" ++ "I") = .error ⟨"()VI", .unexpected (.char voidCode) 2⟩ := by cbv
  have hreason : (DescriptorFault.unexpected (.char voidCode) 2).reason =
      "unexpected character 'V' at position 2" := by
    rw [reason_unexpected_void]
    decide
  exact ⟨hsplit, _, hmore, rfl, hreason, reason_unexpected_void_ne_trailing 2 "I"⟩

end MethodDescriptor
end CallSites
