import PersistenceLayer.Model.Draft

/-!
# The sample model

Three entities that show what a model can declare: generated keys, counters,
constraints, column flags, and relationships within and across packages.
-/

namespace PersistenceLayer.Sample

/-- People who use the system: a surrogate key, a counter and basic columns. -/
def user : EntityDraft :=
  { name := "user"
    packageName := "com.example.model"
    steps :=
      [.tableName "users",
        .declare "id" (some (.identifier .long true)) [],
        .declare "version" (some (.version .integer)) [],
        .declare "name" (some (.basic (.string (some 50))))
          [.nullable false, .constrain .notNull, .constrain .notBlank],
        .declare "email" (some (.basic (.string (some 120)))) [.unique true, .constrain .notEmpty],
        .declare "active" (some (.basic .boolean)) [],
        .declare "createdAt" (some (.basic .zonedDateTime))
          [.columnName "created_at", .updatable false]] }

/-- Parts of the organisation: a key of another type, in a package and schema of their own. -/
def department : EntityDraft :=
  { name := "department"
    packageName := "com.example.org"
    steps :=
      [.tableName "departments", .tableSchema "hr",
        .declare "key" (some (.identifier .uuid true)) [],
        .declare "title" (some (.basic (.string (some 80)))) [.constrain .notBlank],
        .declare "budget" (some (.basic (.bigDecimal (some 12) (some 2)))) []] }

/-- People who work in departments: a reference to their own kind and one to another package. -/
def employee : EntityDraft :=
  { name := "employee"
    packageName := "com.example.model"
    steps :=
      [.entityName "Staff", .tableName "employees", .tableSchema "hr",
        .declare "id" (some (.identifier .long true)) [],
        .declare "version" (some (.version .long)) [],
        .declare "name" (some (.basic (.string (some 100)))) [.constrain .notNull],
        .declare "salary" (some (.basic (.bigDecimal (some 10) (some 2)))) [],
        .declare "hiredOn" (some (.basic .localDateTime))
          [.columnName "hired_on", .updatable false],
        .declare "badge" (some (.basic .uuid)) [.unique true],
        .declare "photo" (some (.basic .byteArray)) [],
        .declare "manager" (some (.manyToOne "employee")) [.columnName "manager_id"],
        .declare "department" (some (.manyToOne "department"))
          [.columnName "department_key", .insertable false]] }

/-- The sample model. -/
def model : Except Defect EntitySet :=
  EntitySet.ofDrafts [user, department, employee]

end PersistenceLayer.Sample
