import ReleaseGate.Config.Reader

/-!
# Accepted configurations

What can be relied on when a configuration was accepted. `MakesSense` says it of the values, `check_eq_ok_iff` that the checks
refuse a configuration just when it fails, and `parse_eq_ok_iff` that a text is accepted just when its document is read as a
configuration that makes sense.
-/

namespace ReleaseGate.Config

/-- The values of a configuration make sense. What a setting has to hold is not blank, a command has a program, and the channels
have URLs and variables of their own. -/
structure MakesSense (cfg : Config) : Prop where
  canonical : Text.isBlankText cfg.repository.canonical = false
  trunkBranch : Text.isBlankText cfg.repository.trunkBranch = false
  versionCommand : cfg.version.command ≠ []
  buildCommand : cfg.build.command ≠ []
  versionVariable : Text.isBlankText cfg.build.versionVariable = false
  packageName : Text.isBlankText cfg.package.name = false
  url (c : Channel) : Text.isBlankText (cfg.channels.get c).url = false
  mintUrl (c : Channel) : cfg.credentials.mode = .oidc → (cfg.channels.get c).mintUrl.isSome = true
  urls : sameUrl cfg.channels.staging.url cfg.channels.production.url = false
  tokenVariables : cfg.credentials.tokenVariables.staging ≠ cfg.credentials.tokenVariables.production

theorem require_eq_ok_iff (ok : Bool) (e : Error) : require ok e = .ok () ↔ ok = true := by
  cases ok <;> simp [require]

/-- What comes after a requirement is reached just when the requirement is met. -/
theorem require_bind_eq_ok_iff {α : Type} (ok : Bool) (e : Error) (f : Unit → Except Error α) (a : α) :
    (require ok e >>= f) = .ok a ↔ ok = true ∧ f () = .ok a := by
  cases ok with
  | false => exact ⟨nofun, nofun⟩
  | true => exact ⟨fun h => ⟨rfl, h⟩, fun h => h.2⟩

/-- A channel passes its checks when it has a URL, and a mint where tokens are minted. -/
theorem checkChannel_bind_eq_ok_iff {α : Type} (cfg : Config) (c : Channel) (f : Unit → Except Error α) (a : α) :
    (cfg.checkChannel c >>= f) = .ok a ↔
      Text.isBlankText (cfg.channels.get c).url = false ∧
        (cfg.credentials.mode = .oidc → (cfg.channels.get c).mintUrl.isSome = true) ∧ f () = .ok a := by
  have regrouped : (cfg.checkChannel c >>= f) =
      require (!Text.isBlankText (cfg.channels.get c).url) (.noUrl c) >>= fun _ =>
        require (cfg.credentials.mode == .env || (cfg.channels.get c).mintUrl.isSome) (.noMintUrl c) >>= f :=
    bind_assoc _ _ _
  have minted : (cfg.credentials.mode == .env || (cfg.channels.get c).mintUrl.isSome) = true ↔
      (cfg.credentials.mode = .oidc → (cfg.channels.get c).mintUrl.isSome = true) := by
    cases cfg.credentials.mode <;> simp
  rw [regrouped, require_bind_eq_ok_iff, require_bind_eq_ok_iff, minted, Bool.not_eq_true']

/-- The checks let a configuration pass just when it makes sense. -/
theorem check_eq_ok_iff (cfg : Config) : cfg.check = .ok () ↔ cfg.MakesSense := by
  unfold check
  simp only [require_bind_eq_ok_iff, checkChannel_bind_eq_ok_iff, require_eq_ok_iff, Bool.not_eq_true', bne_iff_ne,
    List.isEmpty_eq_false_iff]
  constructor
  · rintro ⟨canonical, trunkBranch, versionCommand, buildCommand, versionVariable, packageName, stagingUrl, stagingMint,
      productionUrl, productionMint, urls, tokenVariables⟩
    exact
      { canonical, trunkBranch, versionCommand, buildCommand, versionVariable, packageName, urls, tokenVariables
        url := fun
          | .staging => stagingUrl
          | .production => productionUrl
        mintUrl := fun
          | .staging => stagingMint
          | .production => productionMint }
  · intro h
    exact ⟨h.canonical, h.trunkBranch, h.versionCommand, h.buildCommand, h.versionVariable, h.packageName, h.url .staging,
      h.mintUrl .staging, h.url .production, h.mintUrl .production, h.urls, h.tokenVariables⟩

/-- A text is accepted when its document is read as a configuration and that makes sense. -/
theorem parse_eq_ok_iff (baseDir : Path) (text : String) (cfg : Config) :
    parse baseDir text = .ok cfg ↔ (Toml.parse? text).bind (ofValue? baseDir) = some cfg ∧ cfg.MakesSense := by
  unfold parse
  cases (Toml.parse? text).bind (ofValue? baseDir) with
  | none => exact ⟨nofun, nofun⟩
  | some read =>
    show read.check.map (fun _ => read) = .ok cfg ↔ _
    rw [← check_eq_ok_iff, Option.some.injEq]
    constructor
    · intro accepted
      cases checked : read.check with
      | error e =>
        rw [checked] at accepted
        cases accepted
      | ok _ =>
        rw [checked] at accepted
        obtain rfl := Except.ok.inj accepted
        exact ⟨rfl, checked⟩
    · rintro ⟨rfl, checked⟩
      rw [checked]
      rfl

end ReleaseGate.Config
