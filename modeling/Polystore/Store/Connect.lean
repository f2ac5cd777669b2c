import Polystore.Connection
import Polystore.Store.Write

/-!
Connecting to a store in memory by its url.
-/
namespace Polystore.Store.Service

/-- The service of a connection url, with the writers of a registry. -/
def connect {σ : Type} (environment : Environment) (registry : Registry) (text : String) :
    Action Failure σ Service := do
  let settings ← (Settings.ofUrl environment text).mapError
    (Failure.during · ("While connecting to " ++ Text.quotedExcerpt text))
  Action.log .debug .storeConnection ("Opening the memory store `" ++ settings.name ++ "`")
  return { settings, converter := ⟨registry, settings.converter⟩ }

def connection (service : Service) : Connection Store where
  insert := service.write (.insert none)
  insertExpiring entity lifetime := service.write (.insert (some lifetime)) entity
  update := service.write .update
  delete := service.delete
  select := service.select
  close := service.close

end Polystore.Store.Service
