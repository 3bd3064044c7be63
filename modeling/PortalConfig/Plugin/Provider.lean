import PortalConfig.Doc.Record

/-!
# Sign-in providers

The description of a sign-in provider is passed on as it is.
-/

namespace PortalConfig

/-- A sign-in provider. -/
structure ProviderSetting where
  title : String
  description : String
  provider : String
deriving DecidableEq

namespace ProviderSetting

def decode : Doc → Option ProviderSetting := Doc.record do
  let title ← Record.required "title" Doc.string?
  let description ← Record.required "description" Doc.string?
  let provider ← Record.required "provider" Doc.string?
  return { title, description, provider }

def encode (setting : ProviderSetting) : Doc :=
  .object [("title", .string setting.title), ("description", .string setting.description),
    ("provider", .string setting.provider)]

end ProviderSetting

end PortalConfig
