import SwiftPlan.Proofs.Options.Composition
import SwiftPlan.Proofs.ResponseFile.Reference
import SwiftPlan.Proofs.Settings.Reworded

/-!
# Requests with arguments at their end

Arguments that are written behind a request are read as they would be alone, and what stands in
front of them is read as before: response files are expanded one by one, the name of the driver is
settled in front, and every option in front has its value.  Only a terminator in front would make
them part of the tail.
-/

namespace SwiftPlan

/-- What is parsed without a terminator is parsed in the same way in front of other arguments. -/
lemma OptionTable.parse_append {table : OptionTable} {first second : List String}
    {front back : ParsedOptions} (h : table.parse first = .ok front) (htail : front.tail = none)
    (hback : table.parse second = .ok back) :
    table.parse (first ++ second) = .ok (front.followedBy back) := by
  obtain ⟨options, tail⟩ := front
  obtain rfl : tail = none := htail
  rw [parse_append_of_untailed h, hback]
  rfl

namespace Invocation

/-- An argument that does not say which driver is meant, even if it is the first one. -/
def IsOrdinary (argument : String) : Prop :=
  Text.after? modeOption argument = none ∧ PassthroughTool.ofSubcommand? argument = none

instance : DecidablePred IsOrdinary := fun _ =>
  inferInstanceAs (Decidable (_ ∧ _))

lemma splitName_append {expanded extra : List String} (hne : expanded ≠ [])
    (h : ∀ argument ∈ extra.head?, IsOrdinary argument) :
    splitName (expanded ++ extra) = ((splitName expanded).1, (splitName expanded).2 ++ extra) := by
  cases expanded with
  | nil => exact absurd rfl hne
  | cons executable others =>
    cases others with
    | cons argument rest =>
      cases hmode : Text.after? modeOption argument <;> simp [splitName, hmode]
    | nil =>
      cases extra with
      | nil => simp [splitName]
      | cons argument rest =>
        have hmode := (h argument rfl).1
        simp [splitName, hmode]

lemma ofArguments_append {kind : BuildKind} {expanded own extra : List String}
    (h : ofArguments expanded = .ok ⟨.build kind, own⟩)
    (hextra : ∀ argument ∈ extra.head?, IsOrdinary argument) :
    ofArguments (expanded ++ extra) = .ok ⟨.build kind, own ++ extra⟩ := by
  have hne : expanded ≠ [] := ne_nil_of_ofArguments h
  rw [ofArguments] at h
  rw [ofArguments, splitName_append hne hextra]
  generalize splitName expanded = split at h ⊢
  obtain ⟨name, rest⟩ := split
  dsimp only at h ⊢
  cases hname : DriverKind.ofName? name with
  | none => simp [hname] at h
  | some driver =>
    cases driver with
    | passthrough tool => simp [hname] at h
    | build other =>
      cases hsubcommand : rest.head?.bind PassthroughTool.ofSubcommand? with
      | some tool => simp [hname, hsubcommand] at h
      | none =>
        have hown : other = kind ∧ rest = own := by simpa [hname, hsubcommand] using h
        obtain ⟨rfl, rfl⟩ := hown
        have hstill : (rest ++ extra).head?.bind PassthroughTool.ofSubcommand? = none := by
          cases rest with
          | cons argument others => exact hsubcommand
          | nil =>
            cases extra with
            | nil => rfl
            | cons argument others => exact (hextra argument rfl).2
        simp only [hstill]

end Invocation

namespace Driver

variable {surroundings : Surroundings} {environment : Environment} {kind : BuildKind}
  {request extra : List String} {options more : ParsedOptions} {notices : List Notice}
  {driver : Driver} {settings : Settings}

/-- A driver that plans a build has read its command line. -/
lemma reads_of_ofArguments
    (h : (ofArguments surroundings environment request).outcome = .ok driver)
    (hrequest : driver.request = .build settings) :
    (∃ notices, Reads surroundings request settings.kind settings.options notices) ∧
      driver = ofSettings environment driver.arguments driver.ownArguments settings := by
  simp only [ofArguments, Diagnosed.outcome_bind_eq_ok, Diagnosed.outcome_pure,
    Except.ok.injEq] at h
  obtain ⟨expanded, hexpand, invocation, hinvocation, made, hmade, rfl⟩ := h
  obtain rfl : made = .build settings := hrequest
  refine ⟨?_, rfl⟩
  obtain ⟨kind, own⟩ := invocation
  cases kind with
  | passthrough tool => cases hmade
  | build kind =>
    simp only [requestOf, Diagnosed.outcome_bind_eq_ok, Diagnosed.outcome_pure, Except.ok.injEq,
      Request.build.injEq, exists_eq_right] at hmade
    obtain ⟨rfl, hresolved⟩ := resolve_eq_ok.1 hmade
    refine ⟨(ResponseFile.expand surroundings.fileSystem request).notices, expanded, own, ?_,
      mapError_eq_ok.1 hinvocation, hresolved.options⟩
    rw [← hexpand]

/-- A request is read with further arguments at its end if no terminator stands in front of
them. -/
lemma Reads.append (h : Reads surroundings request kind options notices)
    (htail : options.tail = none) (hplain : ResponseFile.Plain extra)
    (hordinary : ∀ argument ∈ extra.head?, Invocation.IsOrdinary argument)
    (hparse : OptionTable.standard.parse extra = .ok more) :
    Reads surroundings (request ++ extra) kind (options.followedBy more) notices := by
  obtain ⟨expanded, own, hexpand, hinvocation, hown⟩ := h
  refine ⟨expanded ++ extra, own ++ extra, ?_,
    Invocation.ofArguments_append hinvocation hordinary, OptionTable.parse_append hown htail hparse⟩
  rw [ResponseFile.expand] at hexpand
  rw [ResponseFile.expand, ResponseFile.expandIn_append, hexpand,
    ResponseFile.expandIn_eq_self hplain]
  simp

end Driver

end SwiftPlan
