/-
Module: Wts.App.ChangeRequests
Purpose: How an operation on one worktree finds its saved repository.
-/
import Wts.App.WorkspaceSetup
import Wts.Integrations.GitlabValues

namespace Wts.ChangeRequests

open Materialization
open Store (WorkspaceView WorkspaceRepositoryPlan)
open Wts.CodeWorkspace (eqIgnoreAsciiCase)

/-- The first saved repository that has the identifier, or that has none and agrees in its label. -/
def planOf (repositories : List WorkspaceRepositoryPlan) (repositoryId label : String) :
    Option WorkspaceRepositoryPlan :=
  repositories.find? fun repository =>
    repository.repositoryId = some repositoryId ||
      (repository.repositoryId = none && eqIgnoreAsciiCase repository.label label)

/-- The first saved repository that has the identifier or agrees in its label. -/
def planByIdOrLabel (repositories : List WorkspaceRepositoryPlan) (repositoryId label : String) :
    Option WorkspaceRepositoryPlan :=
  repositories.find? fun repository =>
    repository.repositoryId = some repositoryId || eqIgnoreAsciiCase repository.label label

def gitlabTrustedPlan (view : WorkspaceView) (worktree : MaterializedWorktree) :
    Option WorkspaceRepositoryPlan :=
  planOf view.repositories worktree.repositoryId worktree.label

/-- The lookup of `publish_gitlab_review_comment`. -/
def reviewCommentPlan (view : WorkspaceView) (repositoryId : String)
    (worktree : MaterializedWorktree) : Option WorkspaceRepositoryPlan :=
  planOf view.repositories repositoryId worktree.label

/-- The lookup of `prepare_workspace_change_request`. -/
def preparedPlan (view : WorkspaceView) (repositoryId : String) (worktree : MaterializedWorktree) :
    Option WorkspaceRepositoryPlan :=
  planByIdOrLabel view.repositories repositoryId worktree.label

/-- The lookup of `publish_workspace_change_request_branch`. -/
def publishedPlan (view : WorkspaceView) (repositoryId : String) (worktree : MaterializedWorktree) :
    Option WorkspaceRepositoryPlan :=
  planByIdOrLabel view.repositories repositoryId worktree.label

end Wts.ChangeRequests
