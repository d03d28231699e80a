import BundleManifest.Running.Profile
import BundleManifest.Running.Request
import BundleManifest.Running.Stacks
import BundleManifest.Running.Yaml

namespace BundleManifest.Running

def formats : Platform.Formats := ⟨nesting,Yaml.read nesting⟩

def readers : Platform.Readers where
  overrides := formats
  templates := formats
  profile fields := (Platform.Profile.check { fields }).toExcept.toOption

/-- The path of a URL, without tabs and line ends and up to what looks like a query or a fragment.
Hosts with brackets, which can be malformed, are taken for that. -/
def urlPath : Service.UrlPath := fun host path =>
  if (host.getD []).any fun c => c = '[' || c = ']' then none
  else some ((path.filter fun c => c ≠ '\t' && c ≠ '\n' && c ≠ '\r').takeWhile fun c =>
    !Service.Target.endsPath c)

def setup (environment : Platform.Environment) : Service.Setup :=
  ⟨environment,readers,readStack,matchStack,Service.ParseRequest.ofBody nesting⟩

end BundleManifest.Running
