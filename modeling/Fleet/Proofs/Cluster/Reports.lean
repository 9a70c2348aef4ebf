import Fleet.Proofs.Cluster.Interleaving

/-!
# How often the end of a container is reported

A launch goes on until its process ends, and a stop that reached no process goes on until it has
reported the end of its container. Both are taken on while the container has its place, and so
before any end was reported. But what is out for the container already is not looked at: a call that
is taken on while another one, or a process, is out for its container overlaps with it, and causes
one more report. So the end of a container is reported once at most where no calls overlap.
-/

namespace Fleet

/-- Whether a use neither ends the registration nor gives up a launch. -/
def ClusterUse.isSteady : ClusterUse → Bool
  | unregister | abandon _ => false
  | _ => true

namespace SharedCluster

open LocalCluster

variable {site : SharedCluster} {id : String}

/-- The cluster is in contact with the controller as soon as it placed a container. -/
def InContact (site : SharedCluster) : Prop :=
  0 < site.cluster.granted → site.cluster.isRegistered = true

theorem isRegistered_take {use : ClusterUse} (steady : use.isSteady = true)
    (registered : site.cluster.isRegistered = true) :
    (site.take use).cluster.isRegistered = true := by
  cases use with
  | register =>
      simp only [take, LocalCluster.register]
      split
      · exact registered
      · rfl
  | unregister => cases steady
  | request request =>
      simp only [take, LocalCluster.request, if_pos registered]
      split <;> simp [place, registered]
  | release replica =>
      simp only [take, LocalCluster.release]
      split <;> simp [registered]
  | launch replica =>
      simp only [take]
      split <;> exact registered
  | start replica =>
      simp only [take]
      split <;> simp [LocalCluster.start, registered]
  | abandon replica => cases steady
  | stop replica =>
      simp only [take]
      split
      · simp [registered]
      · split <;> exact registered
  | report replica =>
      simp only [take]
      split <;> simp [reportStopped, LocalCluster.finish, registered]
  | exit number ending =>
      simp only [take]
      split <;> simp [reap, LocalCluster.finish, registered]

theorem InContact.take {use : ClusterUse} (contact : site.InContact)
    (numbered : site.cluster.Numbered) (steady : use.isSteady = true) :
    (site.take use).InContact := by
  intro some
  apply isRegistered_take steady
  cases turn numbered use with
  | kept cluster => exact contact (cluster.granted ▸ some)
  | housed registered cluster => exact registered
  | released _ cluster => exact contact (cluster.granted ▸ some)
  | takenOn _ cluster => exact contact (cluster.granted ▸ some)
  | abandoned _ cluster => exact contact (cluster.granted ▸ some)
  | ended _ cluster => exact contact (cluster.granted ▸ some)

end SharedCluster

end Fleet
