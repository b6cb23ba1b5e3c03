import Vitae.Resume.Entry
import Vitae.Section.Block

/-!
# Work

Jobs and voluntary roles, each with a header and one list of bullets.
-/

namespace Vitae.Section

open Text Latex Calendar

/-- The arguments of a job. -/
def jobArgs (j : Job) : Candidates :=
  [("company", j.company),
   ("location", j.location),
   ("position", j.jobTitle),
   ("duration", some (range j.startDate j.endDate j.isCurrent))]

/-- A job, its responsibilities followed by its achievements. -/
def job (j : Job) : Block :=
  entry experienceItem (jobArgs j)
    (bullets none ((j.responsibilities ++ j.achievements).map some))

/-- The jobs. -/
def experience (jobs : List Job) : Block :=
  wrap (banner "Experience") experienceSection "Professional Experience" (jobs.flatMap job)

/-- The arguments of a voluntary role. -/
def roleArgs (r : VolunteerRole) : Candidates :=
  [("company", r.organization),
   ("location", r.location),
   ("position", r.role),
   ("duration", some (range r.startDate r.endDate r.isCurrent))]

/-- A voluntary role, its description followed by its achievements; nothing if it names neither the
organization nor the role. -/
def role (r : VolunteerRole) : Block :=
  if isVisible r.organization || isVisible r.role then
    entry experienceItem (roleArgs r)
      (bullets (some volunteerGap) (r.description :: r.achievements.map some))
  else []

/-- The voluntary roles; nothing unless one of them names both the organization and the role. -/
def volunteering (roles : List VolunteerRole) : Block :=
  if roles.any fun r => isVisible r.organization && isVisible r.role then
    wrap (banner "Other work experience") experienceSection "Other work experience"
      (roles.flatMap role)
  else []

end Vitae.Section
